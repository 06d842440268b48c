import CharLexer.Proofs.JsonText
import Mathlib.Data.List.Nodup

/-!
# Objects as look-ups

An object is asked for the value of a key, and answers with the last of its members that has the
key. Sorting members keeps the last of equal keys, so it changes no answer (`member?_sorted`): the
sorted object lists the members in order of their keys, each key once, and is otherwise the object
of the members as they were given.
-/
namespace CharLexer.Json

namespace Value

/-- The value of a key is that of the last member with the key. -/
theorem member?_eq_some {members : List (String × Value)} {key : String} {value : Value} :
    (object members).member? key = some value ↔
      ∃ before after, members = before ++ (key, value) :: after ∧
        ∀ later ∈ after, later.1 ≠ key := by
  rw [member?, Option.map_eq_some_iff]
  constructor
  · rintro ⟨⟨_, _⟩, found, rfl⟩
    obtain ⟨same, after, before, split, absent⟩ := List.find?_eq_some_iff_append.mp found
    obtain rfl := beq_iff_eq.mp same
    have order := congrArg List.reverse split
    rw [List.reverse_reverse, List.reverse_append, List.reverse_cons, List.append_assoc,
      List.singleton_append] at order
    refine ⟨before.reverse, after.reverse, order, fun later member => ?_⟩
    have other := absent later (List.mem_reverse.mp member)
    simpa using other
  · rintro ⟨before, after, rfl, absent⟩
    refine ⟨(key, value), List.find?_eq_some_iff_append.mpr ⟨beq_self_eq_true key, after.reverse,
      before.reverse, ?_, fun later member => ?_⟩, rfl⟩
    · rw [List.reverse_append, List.reverse_cons, List.append_assoc, List.singleton_append]
    · have other := absent later (List.mem_reverse.mp member)
      simpa using other

/-- A value that is found is that of a member. -/
theorem mem_of_member? {members : List (String × Value)} {key : String} {value : Value}
    (found : (object members).member? key = some value) : (key, value) ∈ members := by
  obtain ⟨before, after, rfl, -⟩ := member?_eq_some.mp found
  exact List.mem_append_right _ List.mem_cons_self

/-- When no key repeats, the value of a key is that of the member with the key. -/
theorem member?_of_nodup {members : List (String × Value)} (distinct : (members.map (·.1)).Nodup)
    {key : String} {value : Value} :
    (object members).member? key = some value ↔ (key, value) ∈ members := by
  refine ⟨mem_of_member?, fun member => ?_⟩
  obtain ⟨before, after, rfl⟩ := List.append_of_mem member
  refine member?_eq_some.mpr ⟨before, after, rfl, fun later listed same => ?_⟩
  rw [List.map_append, List.map_cons] at distinct
  have absent := (List.nodup_cons.mp (List.nodup_append.mp distinct).2.1).1
  exact absent (List.mem_map.mpr ⟨later, listed, same⟩)

end Value

/-- What is stored under a key, when members are put in one after another, is the value of the
key. -/
theorem getElem?_ofList (members : List (String × Value)) (key : String) :
    (Std.TreeMap.ofList members)[key]? = (Value.object members).member? key := by
  have first (listed : List (String × Value)) :
      listed.findSome? (fun member => if compare member.1 key = .eq then some member.2 else none) =
        (listed.find? fun member => member.1 == key).map (·.2) := by
    induction listed with
    | nil => rfl
    | cons member listed ih =>
      rw [List.findSome?_cons, List.find?_cons, ih]
      by_cases same : member.1 = key
      · have found : compare member.1 key = .eq := Std.LawfulEqCmp.compare_eq_iff_eq.mpr same
        rw [if_pos found, beq_iff_eq.mpr same]
        rfl
      · have other : ¬compare member.1 key = .eq :=
          fun found => same (Std.LawfulEqCmp.compare_eq_iff_eq.mp found)
        rw [if_neg other, beq_eq_false_iff_ne.mpr same]
  rw [Std.TreeMap.ofList_eq_insertMany_empty, Std.TreeMap.getElem?_insertMany_list,
    Std.TreeMap.getElem?_emptyc, Option.or_none, List.findSomeRev?_eq_findSome?_reverse]
  exact first members.reverse

/-- No key of a sorted object repeats. -/
theorem nodup_sorted (members : List (String × Value)) :
    ((Std.TreeMap.ofList members).toList.map (·.1)).Nodup := by
  refine List.pairwise_map.mpr ?_
  refine Std.TreeMap.distinct_keys_toList.imp fun {first second} differ same => ?_
  exact differ (Std.LawfulEqCmp.compare_eq_iff_eq.mpr same)

/-- The members of a sorted object are the keys of those given, each with its value. -/
theorem mem_sorted {members : List (String × Value)} {key : String} {value : Value} :
    (key, value) ∈ (Std.TreeMap.ofList members).toList ↔
      (Value.object members).member? key = some value := by
  rw [Std.TreeMap.mem_toList_iff_getElem?_eq_some, getElem?_ofList]

/-- Sorting the members of an object changes the value of no key. -/
theorem Value.member?_sorted (members : List (String × Value)) (key : String) :
    (sorted members).member? key = (object members).member? key := by
  ext value
  rw [sorted, member?_of_nodup (nodup_sorted members), mem_sorted]

/-- The keys of a sorted object are those given. -/
theorem mem_keys_sorted {members : List (String × Value)} {key : String} :
    key ∈ (Std.TreeMap.ofList members).toList.map (·.1) ↔ key ∈ members.map (·.1) := by
  have stored : key ∈ Std.TreeMap.ofList members ↔ (members.map (·.1)).contains key = true :=
    Std.TreeMap.mem_ofList
  have listed : (Std.TreeMap.ofList members).toList.map (·.1) = (Std.TreeMap.ofList members).keys :=
    Std.TreeMap.map_fst_toList_eq_keys
  rw [listed, Std.TreeMap.mem_keys, stored, List.contains_iff_mem]

/-- The members of a sorted object whose keys do not repeat: those given, in another order. -/
theorem perm_sorted {members : List (String × Value)}
    (distinct : (members.map (·.1)).Nodup) :
    (Std.TreeMap.ofList members).toList.Perm members := by
  have nodup : (Std.TreeMap.ofList members).toList.Nodup := .of_map _ (nodup_sorted members)
  refine (List.perm_ext_iff_of_nodup nodup (.of_map _ distinct)).mpr ?_
  rintro ⟨key, value⟩
  rw [mem_sorted, Value.member?_of_nodup distinct]

/-- The keys of a sorted object ascend. -/
theorem ordered_sorted (members : List (String × Value)) :
    ((Std.TreeMap.ofList members).toList.map (·.1)).Pairwise (· < ·) := by
  refine List.pairwise_map.mpr (Std.TreeMap.ordered_keys_toList.imp fun {first second} before => ?_)
  exact compareOfLessAndEq_eq_lt.mp before

/-- A sorted object is plain when the values given are. -/
theorem Value.Plain.sorted {members : List (String × Value)}
    (plain : ∀ member ∈ members, member.2.Plain) : (Value.sorted members).Plain := by
  refine .object fun member listed => ?_
  exact plain (member.1, member.2) (Value.mem_of_member? (mem_sorted.mp listed))

end CharLexer.Json
