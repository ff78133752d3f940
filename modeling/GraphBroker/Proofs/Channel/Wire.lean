import GraphBroker.Channel.Consumer
import GraphBroker.Channel.Request
import GraphBroker.Proofs.Json.Identifiers
import GraphBroker.Proofs.Rdf.ResultsJson

/-!
# Requests and messages there and back

A request and a message name their kind in front of their other members, of which those are left
out that have nothing to tell. Each is read from its JSON as it was written. A client that
forwards what it is told sends each message on once, as it came.

## Main definitions

* `Request.members`, `Message.members`: the members beside the kind.
* `Request.names`, `Message.names`: the names that are looked for in a value of a kind.
* `Message.FitsWords`: the numbers in a message fit the words they are kept in.

## Main statements

* `Request.ofJson?_toJson`, `Message.ofJson?_toJson`: what is read from what was written.
* `wire_loses_nothing`: both, with what a client forwards.
-/

namespace GraphBroker

open Json

/-! ### Requests -/

namespace Request

variable {fields : Fields}

/-- The members of a request beside its kind. -/
def members : Request → List (String × Json)
  | subscribe pattern label authorization =>
    pattern.members ++ member? "alias" (label.map .text) ++
      member? "authorization" (authorization.map .text)
  | unsubscribe id authorization =>
    ("spuid", id.toJson) :: member? "authorization" (authorization.map .text)
  | update sparql authorization =>
    ("sparql", .text sparql) :: member? "authorization" (authorization.map .text)
  | query pattern authorization =>
    pattern.members ++ member? "authorization" (authorization.map .text)

/-- The names that are looked for in a request of this kind. -/
def names : Request → List String
  | subscribe .. => ["sparql", "bindings", "alias", "authorization"]
  | unsubscribe .. => ["spuid", "authorization"]
  | update .. => ["sparql", "authorization"]
  | query .. => ["sparql", "bindings", "authorization"]

theorem toJson_eq (request : Request) :
    request.toJson = .object (("type", .text request.kind) :: request.members) := by
  cases request <;> rfl

theorem sublist_members (request : Request) :
    (request.members.map Prod.fst).Sublist request.names := by
  have pattern (p : Sparql.Pattern) : (p.members.map Prod.fst).Sublist ["sparql", "bindings"] :=
    sublist_member?.cons_cons "sparql"
  cases request with
  | subscribe p label authorization =>
    simp only [members, List.map_append]
    exact ((pattern p).append sublist_member?).append sublist_member?
  | unsubscribe id authorization => exact sublist_member?.cons_cons "spuid"
  | update sparql authorization => exact sublist_member?.cons_cons "sparql"
  | query p authorization =>
    simp only [members, List.map_append]
    exact (pattern p).append sublist_member?

theorem nested_members (request : Request) : ∀ member ∈ request.members, Nested 2 member.2 := by
  have word (text : Option String) (name : String) :
      ∀ member ∈ member? name (text.map .text), Nested 2 member.2 :=
    nested_member? nested_text_of_mem_map
  have pattern (p : Sparql.Pattern) : ∀ member ∈ p.members, Nested 2 member.2 := by
    refine List.forall_mem_cons.2 ⟨nested_text 2 p.sparql, nested_member? fun json given => ?_⟩
    split at given
    · cases given
    · cases given
      exact p.bindings.nested_toJson
  cases request with
  | subscribe p label authorization =>
    exact List.forall_mem_append.2 ⟨List.forall_mem_append.2 ⟨pattern p, word label _⟩,
      word authorization _⟩
  | unsubscribe id authorization =>
    exact List.forall_mem_cons.2 ⟨nested_text 2 _, word authorization _⟩
  | update sparql authorization =>
    exact List.forall_mem_cons.2 ⟨nested_text 2 sparql, word authorization _⟩
  | query p authorization => exact List.forall_mem_append.2 ⟨pattern p, word authorization _⟩

theorem variant?_toJson (request : Request) :
    variant? .outermost request.toJson = some (request.kind, .object request.members) := by
  have nested : Nested 3 request.toJson := by
    rw [toJson_eq]
    exact nested_object (List.forall_mem_cons.2 ⟨nested_text 2 _, request.nested_members⟩)
  rw [toJson_eq] at nested ⊢
  refine variant?_object request.names (nested.keep? (by decide)) request.sublist_members ?_
  cases request <;> simp [names]

theorem fields?_members (request : Request) :
    fields? request.names (.object request.members) = some ⟨request.members, false⟩ := by
  refine fields?_object request.sublist_members ?_
  cases request <;> simp [names]

/-- The query `pattern` with its forced bindings, of which none are left out. -/
theorem pattern?_of_get? (pattern : Sparql.Pattern)
    (sparql : fields.get? "sparql" = some (.text pattern.sparql))
    (bindings : fields.get? "bindings" =
      if pattern.bindings.isEmpty then none else some pattern.bindings.toJson) :
    pattern? fields = some pattern := by
  have forced : fields.defaulted? "bindings" ∅ (Binding.ofJson? .kept) = some pattern.bindings := by
    split at bindings
    next nothing =>
      have empty : pattern.bindings = ∅ :=
        congrArg Binding.mk (Std.ExtTreeMap.isEmpty_iff.1 nothing)
      rw [empty]
      exact Fields.defaulted?_of_none bindings
    next => exact (Fields.defaulted?_of_get? bindings).trans pattern.bindings.ofJson?_toJson
  rw [pattern?, Fields.required?_of_get? sparql, forced]
  rfl

theorem ofJson?_toJson (request : Request) : ofJson? request.toJson = some request := by
  have known := request.fields?_members
  rw [ofJson?, variant?_toJson]
  simp only [Option.bind_eq_bind, Option.bind_some]
  -- What is left of each case is to look up its names among the members that are there.
  cases request with
  | subscribe pattern label authorization =>
    simp only [kind, names] at known ⊢
    rw [known, Option.bind_some, pattern?_of_get? pattern, text?, text?,
      Fields.defaulted?_text label, Fields.defaulted?_text authorization]
    · rfl
    all_goals simp [Fields.get?, members, Sparql.Pattern.members, List.lookup_append, lookup_cons,
      lookup_member?]
  | unsubscribe id authorization =>
    simp only [kind, names] at known ⊢
    rw [known, Option.bind_some, Fields.required?_of_get? rfl, SubscriptionId.ofJson?_toJson,
      text?, Fields.defaulted?_text authorization]
    · rfl
    · exact lookup_cons.trans (by simp [lookup_member?])
  | update sparql authorization =>
    simp only [kind, names] at known ⊢
    rw [known, Option.bind_some, Fields.required?_of_get? rfl, text?,
      Fields.defaulted?_text authorization]
    · rfl
    · exact lookup_cons.trans (by simp [lookup_member?])
  | query pattern authorization =>
    simp only [kind, names] at known ⊢
    rw [known, Option.bind_some, pattern?_of_get? pattern, text?,
      Fields.defaulted?_text authorization]
    · rfl
    all_goals simp [Fields.get?, members, Sparql.Pattern.members, List.lookup_append, lookup_cons,
      lookup_member?]

end Request

/-! ### Messages -/

namespace Message

/-- The members of a message beside its kind. -/
def members : Message → List (String × Json)
  | subscribed id label initial =>
    ("spuid", id.toJson) :: member? "alias" (label.map .text) ++
      [("initial_results", initial.toJson)]
  | unsubscribed id => [("spuid", id.toJson)]
  | notification n => n.members
  | updated => []
  | results r => [("results", r.toJson)]
  | error response => response.members

/-- The names that are looked for in a message of this kind. -/
def names : Message → List String
  | subscribed .. => ["spuid", "alias", "initial_results"]
  | unsubscribed _ => ["spuid"]
  | notification _ => ["spuid", "sequence", "added", "removed"]
  | updated => []
  | results _ => ["results"]
  | error _ => ["status_code", "error", "error_description"]

/-- The number of a notification fits 64 bits and the status of an error 16 bits. -/
def FitsWords : Message → Prop
  | notification n => n.sequence < Nat.pow 2 64
  | error response => response.status < Nat.pow 2 16
  | _ => True

instance : DecidablePred FitsWords := fun message => by
  cases message <;> unfold FitsWords <;> infer_instance

theorem toJson_eq (message : Message) :
    message.toJson = .object (("type", .text message.kind) :: message.members) := by
  cases message <;> rfl

theorem sublist_members (message : Message) :
    (message.members.map Prod.fst).Sublist message.names := by
  cases message with
  | subscribed id label initial =>
    simp only [members, List.cons_append, List.map_cons, List.map_append]
    exact (sublist_member?.append (.refl _)).cons_cons "spuid"
  | unsubscribed | notification | updated | results | error => exact .refl _

theorem nested_members (message : Message) : ∀ member ∈ message.members, Nested 5 member.2 := by
  have row (r : ResultSet) (name : String) : ∀ member ∈ [(name, r.toJson)], Nested 5 member.2 :=
    List.forall_mem_singleton.2 r.nested_toJson
  have named (id : SubscriptionId) {members : List (String × Json)}
      (others : ∀ member ∈ members, Nested 5 member.2) :
      ∀ member ∈ ("spuid", id.toJson) :: members, Nested 5 member.2 :=
    List.forall_mem_cons.2 ⟨nested_text 5 _, others⟩
  cases message with
  | subscribed id label initial =>
    exact named id (List.forall_mem_append.2 ⟨nested_member? nested_text_of_mem_map, row initial _⟩)
  | unsubscribed id => exact named id nofun
  | notification n =>
    exact named n.subscription (List.forall_mem_cons.2 ⟨nested_int 5 _,
      List.forall_mem_cons.2 ⟨n.change.added.nested_toJson, row n.change.removed _⟩⟩)
  | updated => exact nofun
  | results r => exact row r _
  | error response =>
    exact List.forall_mem_cons.2 ⟨nested_int 5 _, List.forall_mem_cons.2 ⟨nested_text 5 _,
      List.forall_mem_singleton.2 (nested_text 5 _)⟩⟩

theorem variant?_toJson (message : Message) :
    variant? .outermost message.toJson = some (message.kind, .object message.members) := by
  have nested : Nested 6 message.toJson := by
    rw [toJson_eq]
    exact nested_object (List.forall_mem_cons.2 ⟨nested_text 5 _, message.nested_members⟩)
  rw [toJson_eq] at nested ⊢
  refine variant?_object message.names (nested.keep? (by decide)) message.sublist_members ?_
  cases message <;> simp [names]

theorem fields?_members (message : Message) :
    fields? message.names (.object message.members) = some ⟨message.members, false⟩ := by
  refine fields?_object message.sublist_members ?_
  cases message <;> simp [names]

theorem ofJson?_toJson {message : Message} (fits : message.FitsWords) :
    ofJson? message.toJson = some message := by
  have known := message.fields?_members
  rw [ofJson?, variant?_toJson]
  simp only [Option.bind_eq_bind, Option.bind_some]
  cases message with
  | subscribed id label initial =>
    -- The results stand behind a member that may be missing.
    have last : Fields.get? ⟨(subscribed id label initial).members, false⟩ "initial_results" =
        some initial.toJson := by
      simp [Fields.get?, members, List.lookup_append, lookup_cons, lookup_member?]
    simp only [kind, names] at known ⊢
    rw [known, Option.bind_some, Fields.required?_of_get? rfl, SubscriptionId.ofJson?_toJson,
      Fields.defaulted?_text label, Fields.required?_of_get? last, ResultSet.ofJson?_toJson]
    · rfl
    · simp [Fields.get?, members, List.lookup_append, lookup_cons, lookup_member?]
  | unsubscribed id =>
    simp only [kind, names] at known ⊢
    rw [known, Option.bind_some, Fields.required?_of_get? rfl, SubscriptionId.ofJson?_toJson]
    rfl
  | notification n =>
    simp only [kind, names, members] at known ⊢
    rw [Notification.ofJson?]
    simp only [Option.bind_eq_bind]
    rw [known, Option.bind_some, Fields.required?_of_get? rfl, SubscriptionId.ofJson?_toJson,
      Fields.required?_of_get? rfl, nat?_int fits, Fields.required?_of_get? rfl,
      ResultSet.ofJson?_toJson, Fields.required?_of_get? rfl, ResultSet.ofJson?_toJson]
    rfl
  | updated =>
    simp only [kind, names] at known ⊢
    rw [known]
    rfl
  | results r =>
    simp only [kind, names] at known ⊢
    rw [known, Option.bind_some, Fields.required?_of_get? rfl, ResultSet.ofJson?_toJson]
    rfl
  | error response =>
    simp only [kind, names, members] at known ⊢
    rw [ErrorResponse.ofJson?]
    simp only [Option.bind_eq_bind]
    rw [known, Option.bind_some, Fields.required?_of_get? rfl, nat?_int fits]
    rfl

/-- A client that forwards what it is told sends each `message` on once. -/
theorem forwarded_eq (message : Message) : message.forwarded = [message] := by
  cases message with
  | notification n =>
    -- What has come and what has gone is told as well, but not forwarded.
    simp only [forwarded, events]
    split <;> split <;> rfl
  | subscribed | unsubscribed | updated | results | error => rfl

end Message

/-! ### Both directions -/

/-- Every `request` and every `message` is read from its JSON as it was written, with the variables
of its result sets, and a client that forwards what it has read sends on this message and no
other. -/
theorem wire_loses_nothing :
    (∀ request : Request, Request.ofJson? request.toJson = some request) ∧
      ∀ message : Message, message.FitsWords →
        Message.ofJson? message.toJson = some message ∧
          (Message.ofJson? message.toJson).map Message.forwarded = some [message] := by
  refine ⟨Request.ofJson?_toJson, fun message fits => ?_⟩
  have read := Message.ofJson?_toJson fits
  exact ⟨read, by rw [read, Option.map_some, Message.forwarded_eq]⟩

/-- The last notification that can be numbered. It tells of a literal with a datatype and a
language under a variable that is asked for twice. -/
def lastNotification : Message :=
  .notification {
    subscription := ⟨.ofNat 1⟩
    sequence := Nat.pow 2 64 - 1
    change := {
      added := .ofList ["x", "x"] [.ofList [("x", .literal "tag" (some "urn:d") (some "en"))]]
      removed := .empty [] } }

/-- The `lastNotification` reaches the client, which sends it on. -/
theorem wire_keeps_lastNotification :
    lastNotification.FitsWords ∧
      Message.ofJson? lastNotification.toJson = some lastNotification ∧
        (Message.ofJson? lastNotification.toJson).map Message.forwarded =
          some [lastNotification] :=
  have fits : lastNotification.FitsWords := by decide
  ⟨fits, wire_loses_nothing.2 lastNotification fits⟩

end GraphBroker
