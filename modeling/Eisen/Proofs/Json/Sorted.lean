import Eisen.Json.Basic

namespace Eisen.Json

/-!
# Values as they are read

Reading a value sorts the members of its objects by name. Where every name
stands once, the sorted members are the written ones with sorted values: the
same members are found by name, and the same is true of all of them.
-/

mutual

/--
A value as it is read: the members of objects sorted, the last one
of a name kept.
-/
def sorted : Json → Json
  | .array items => .array (sortedItems items)
  | .object members => .object (sortedMembers [] members)
  | .null => .null
  | .bool value => .bool value
  | .integer value => .integer value
  | .real value => .real value
  | .text value => .text value

/-- Items as they are read. -/
def sortedItems : List Json → List Json
  | [] => []
  | item :: rest => sorted item :: sortedItems rest

/-- Members as they are read behind earlier ones. -/
def sortedMembers :
    List (String × Json) → List (String × Json) → List (String × Json)
  | earlier, [] => earlier
  | earlier, (name, value) :: rest =>
      sortedMembers (setMember name (sorted value) earlier) rest

end

theorem sortedItems_eq_map (items : List Json) :
    sortedItems items = items.map sorted := by
  induction items with
  | nil => rfl
  | cons item rest inductionHypothesis =>
      rw [sortedItems, inductionHypothesis, List.map_cons]

theorem lookup_cons_eq
    (name key : String)
    (value : Json)
    (members : List (String × Json)) :
    ((key, value) :: members).lookup name =
      if name = key then some value else members.lookup name := by
  rw [List.lookup_cons]
  by_cases same : name = key
  · simp [same]
  · rw [if_neg same, beq_false_of_ne same]

/-- A member that is set is found, and the others are found as before. -/
theorem lookup_setMember
    (name other : String)
    (value : Json)
    (members : List (String × Json)) :
    (setMember name value members).lookup other =
      if other = name then some value else members.lookup other := by
  induction members with
  | nil => simp only [setMember, lookup_cons_eq]
  | cons first rest inductionHypothesis =>
      obtain ⟨key, found⟩ := first
      rw [setMember]
      by_cases same : name = key
      · subst same
        rw [if_pos rfl, lookup_cons_eq, lookup_cons_eq]
        by_cases isName : other = name <;> simp [isName]
      · rw [if_neg same]
        by_cases early : Text.notAfter name key = true
        · rw [if_pos early, lookup_cons_eq]
        · rw [if_neg early, lookup_cons_eq, lookup_cons_eq, inductionHypothesis]
          by_cases isName : other = name
          · subst isName
            simp [same]
          · simp [isName]

/-- A name that no member has is not found. -/
theorem lookup_eq_none_of_not_mem
    {name : String}
    {members : List (String × Json)}
    (absent : name ∉ members.map Prod.fst) :
    members.lookup name = none := by
  rw [List.lookup_eq_none_iff]
  intro member found
  rw [bne_iff_ne]
  rintro rfl
  exact absent (List.mem_map_of_mem found)

/-- Where names are distinct, every member is found by its name. -/
theorem lookup_eq_some_of_mem
    {members : List (String × Json)}
    (distinct : (members.map Prod.fst).Nodup)
    {member : String × Json}
    (found : member ∈ members) :
    members.lookup member.1 = some member.2 := by
  induction members with
  | nil => cases found
  | cons first rest inductionHypothesis =>
      obtain ⟨absent, distinct⟩ := List.nodup_cons.mp distinct
      rw [lookup_cons_eq]
      rcases List.mem_cons.mp found with rfl | inRest
      · exact if_pos rfl
      · have other : member.1 ≠ first.1 := by
          intro same
          exact absent (same ▸ List.mem_map_of_mem inRest)
        rw [if_neg other, inductionHypothesis distinct inRest]

/-- Setting a member adds nothing else. -/
theorem mem_of_mem_setMember
    {name : String}
    {value : Json}
    {members : List (String × Json)}
    {member : String × Json}
    (found : member ∈ setMember name value members) :
    member = (name, value) ∨ member ∈ members := by
  induction members with
  | nil => exact .inl (List.mem_singleton.mp found)
  | cons first rest inductionHypothesis =>
      obtain ⟨key, other⟩ := first
      rw [setMember] at found
      split at found
      · rcases List.mem_cons.mp found with isNew | inRest
        · exact .inl isNew
        · exact .inr (List.mem_cons_of_mem _ inRest)
      · split at found
        · exact List.mem_cons.mp found
        · rcases List.mem_cons.mp found with isFirst | inRest
          · exact .inr (isFirst ▸ List.mem_cons_self)
          · exact (inductionHypothesis inRest).imp id (List.mem_cons_of_mem _)

/-- Sorting adds no member. -/
theorem mem_of_mem_sortedMembers
    {earlier members : List (String × Json)}
    {member : String × Json}
    (found : member ∈ sortedMembers earlier members) :
    member ∈ earlier ∨ ∃ written ∈ members,
      member = (written.1, written.2.sorted) := by
  induction members generalizing earlier with
  | nil =>
      rw [sortedMembers] at found
      exact .inl found
  | cons first rest inductionHypothesis =>
      obtain ⟨name, value⟩ := first
      rw [sortedMembers] at found
      rcases inductionHypothesis found with
        inEarlier | ⟨written, inRest, isWritten⟩
      · rcases mem_of_mem_setMember inEarlier with rfl | inEarlier
        · exact .inr ⟨(name, value), List.mem_cons_self, rfl⟩
        · exact .inl inEarlier
      · exact .inr ⟨written, List.mem_cons_of_mem _ inRest, isWritten⟩

/-- Sorting members does not change what is found by a name. -/
theorem lookup_sortedMembers
    {members : List (String × Json)}
    (distinct : (members.map Prod.fst).Nodup)
    (earlier : List (String × Json))
    (name : String) :
    (sortedMembers earlier members).lookup name =
      ((members.lookup name).map sorted).or (earlier.lookup name) := by
  induction members generalizing earlier with
  | nil => simp [sortedMembers]
  | cons first rest inductionHypothesis =>
      obtain ⟨key, value⟩ := first
      obtain ⟨absent, distinct⟩ := List.nodup_cons.mp distinct
      rw [sortedMembers, inductionHypothesis distinct, lookup_setMember,
        lookup_cons_eq]
      by_cases same : name = key
      · subst same
        simp [lookup_eq_none_of_not_mem absent]
      · simp [same]

/-- A member is found under the name it was written with. -/
theorem member?_sortedMembers
    {members : List (String × Json)}
    (distinct : (members.map Prod.fst).Nodup)
    (name : String) :
    member? name (sortedMembers [] members) =
      (member? name members).map sorted := by
  simp [member?, lookup_sortedMembers distinct]

/--
What is true of all members as they are read is true of all of them as
they are written.
-/
theorem forall_mem_sortedMembers_iff
    {members : List (String × Json)}
    (distinct : (members.map Prod.fst).Nodup)
    (Holds : String → Json → Prop) :
    (∀ member ∈ sortedMembers [] members, Holds member.1 member.2) ↔
      ∀ member ∈ members, Holds member.1 member.2.sorted := by
  constructor
  · intro holds member written
    have found :
        (sortedMembers [] members).lookup member.1 = some member.2.sorted := by
      rw [lookup_sortedMembers distinct, lookup_eq_some_of_mem distinct written]
      rfl
    obtain ⟨front, behind, form, -⟩ := List.lookup_eq_some_iff.mp found
    exact holds (member.1, member.2.sorted) (by simp [form])
  · intro holds member found
    rcases mem_of_mem_sortedMembers found with ⟨⟨⟩⟩ | ⟨written, inMembers, rfl⟩
    exact holds written inMembers

end Eisen.Json
