import GraphBroker.Proofs.Json.Values
import GraphBroker.Rdf.ResultsJson

/-!
# Results there and back

A term, a binding and a result set are read from the JSON that is made of them. The terms of
a binding are listed by the names of their variables, each of which occurs once. A result set
keeps its variables, though they do not count when two result sets are compared.

## Main statements

* `Term.ofJson?_toJson`, `Binding.ofJson?_toJson`, `ResultSet.ofJson?_toJson`: each is read
  as it was written.
* `Term.nested_toJson`, `Binding.nested_toJson`, `ResultSet.nested_toJson`: how deep each is
  nested.
-/

namespace GraphBroker

open Std

/-! ### Terms -/

theorem Term.ofJson?_toJson (term : Term) : ofJson? .kept term.toJson = some term := by
  cases term with
  | iri value | blank value =>
    rw [ofJson?, toJson, Json.variant?_object ["value"] rfl (by simp) (by simp)]
    rfl
  | literal value datatype language =>
    -- Each of the two members is left out when there is nothing to tell.
    cases datatype <;> cases language <;>
    · rw [ofJson?, toJson, List.cons_append, List.cons_append,
        Json.variant?_object ["value", "datatype", "xml:lang"] rfl (by simp [Json.member?])
          (by simp)]
      rfl

theorem Term.nested_toJson (term : Term) : Json.Nested 1 term.toJson := by
  -- The members that every term has.
  have named (kind value : String) : ∀ member ∈ [("type", Json.text kind), ("value", .text value)],
      Json.Nested 0 member.2 :=
    List.forall_mem_cons.2 ⟨Json.nested_text 0 kind,
      List.forall_mem_singleton.2 (Json.nested_text 0 value)⟩
  cases term with
  | iri value | blank value => exact Json.nested_object (named _ value)
  | literal value datatype language =>
    refine Json.nested_object ?_
    refine List.forall_mem_append.2 ⟨List.forall_mem_append.2 ⟨named _ value, ?_⟩, ?_⟩
    all_goals exact Json.nested_member? Json.nested_text_of_mem_map

/-! ### Bindings -/

namespace Binding

/-- The terms of the list `entries` are put in one after another. -/
theorem terms_ofList (entries : List (String × Term)) :
    (ofList entries).terms = (∅ : ExtTreeMap String Term).insertMany entries := by
  rw [ExtTreeMap.insertMany_list_eq_foldl, ofList]
  exact (List.foldl_hom terms fun _ _ => rfl).symm

theorem ofList_toList (b : Binding) : ofList b.toList = b := by
  ext1 name
  rw [get?, terms_ofList]
  cases given : b.get? name with
  | none =>
    refine (ExtTreeMap.getElem?_insertMany_list_of_contains_eq_false ?_).trans (get?_empty)
    refine (List.contains_eq_mem ..).trans (decide_eq_false fun listed => ?_)
    obtain ⟨⟨_, term⟩, entry, rfl⟩ := List.mem_map.1 listed
    exact Option.some_ne_none term ((mem_toList_iff.1 entry).symm.trans given)
  | some term =>
    exact ExtTreeMap.getElem?_insertMany_list_of_mem (Std.compare_self)
      ExtTreeMap.distinct_keys_toList (mem_toList_iff.2 given)

theorem ofJson?_toJson (b : Binding) : ofJson? .kept b.toJson = some b := by
  have entries : (b.toList.map fun entry => (entry.1, entry.2.toJson)).mapM
      (fun member => (Term.ofJson? .kept member.2).map (member.1, ·)) = some b.toList :=
    Json.mapM_map_eq_some fun entry _ => by rw [Term.ofJson?_toJson]; rfl
  have whole := congrArg (Option.map ofList) entries
  rwa [Option.map_some, ofList_toList] at whole

theorem nested_toJson (b : Binding) : Json.Nested 2 b.toJson := by
  refine Json.nested_object fun member listed => ?_
  obtain ⟨entry, -, rfl⟩ := List.mem_map.1 listed
  exact entry.2.nested_toJson

end Binding

/-! ### Result sets -/

namespace ResultSet

theorem ofList_toList (r : ResultSet) : ofList r.vars r.toList = r := by
  have rows : (ofList r.vars r.toList).Agrees r :=
    agrees_iff.2 fun b => mem_ofList.trans mem_toList
  cases r
  exact congrArg (mk _) rows

theorem ofJson?_toJson (r : ResultSet) : ofJson? .kept r.toJson = some r := by
  have rows : Json.list? (Binding.ofJson? (Json.Place.kept.inside 3))
      (.array (r.toList.map Binding.toJson)) = some r.toList :=
    Json.mapM_map_eq_some fun b _ => b.ofJson?_toJson
  rw [ofJson?, toJson, Json.fields?_object (by simp) (by simp)]
  simp only [Option.bind_eq_bind, Option.bind_some]
  rw [Json.Fields.defaulted?_of_get? rfl, Json.fields?_object (by simp) (by simp)]
  simp only [Option.bind_some]
  rw [Json.Fields.defaulted?_of_get? rfl, Json.list?_ofTexts]
  simp only [Option.bind_some]
  rw [Json.Fields.defaulted?_of_get? rfl, Json.fields?_object (by simp) (by simp)]
  simp only [Option.bind_some]
  rw [Json.Fields.defaulted?_of_get? rfl, rows]
  exact congrArg some r.ofList_toList

theorem nested_toJson (r : ResultSet) : Json.Nested 5 r.toJson := by
  have vars : Json.Nested 4 (.object [("vars", Json.ofTexts r.vars)]) :=
    Json.nested_object (List.forall_mem_singleton.2 ((Json.nested_ofTexts r.vars).mono (by decide)))
  have rows : Json.Nested 3 (.array (r.toList.map Binding.toJson)) := by
    refine Json.nested_array fun item listed => ?_
    obtain ⟨b, -, rfl⟩ := List.mem_map.1 listed
    exact b.nested_toJson
  exact Json.nested_object (List.forall_mem_cons.2 ⟨vars,
    List.forall_mem_singleton.2 (Json.nested_object (List.forall_mem_singleton.2 rows))⟩)

end ResultSet

end GraphBroker
