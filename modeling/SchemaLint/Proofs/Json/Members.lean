import Mathlib.Data.List.Induction
import Mathlib.Data.List.Nodup
import SchemaLint.Json.Basic

/-!
# Members with repeated keys

Members as they are written may have a key more than once. Setting them one after the
other (`gather`) leaves each key once, where it came first (`keys_gather`), with the
value that came last (`get?_gather`). Leaving out some of the keys, or changing each
value in a way that only its key decides, may be done before or after
(`gather_keepKeys`, `gather_mapValues`). All of it is by induction on the members from
the end, for the last one is the one that is set.
-/

namespace SchemaLint.Json.Members

/-- Sets members one after the other. -/
def setAll (done members : Members) : Members :=
  members.foldl (fun done member => done.set member.1 member.2) done

/-- The members that are left when the given ones are set one after the other. -/
def gather (members : Members) : Members := setAll [] members

/-- The value that comes last under a key. -/
def last? (key : Text) (members : Members) : Option Json :=
  ((members.filter (·.1 = key)).getLast?).map (·.2)

/-- The members with some of the keys. -/
def keepKeys (keep : Text → Bool) (members : Members) : Members :=
  members.filter fun member => keep member.1

/-- The members with other values, for which the keys count as well. -/
def mapValues (f : Text → Json → Json) (members : Members) : Members :=
  members.map fun member => (member.1, f member.1 member.2)

variable {key : Text} {members : Members}

theorem gather_concat (members : Members) (member : Text × Json) :
    gather (members ++ [member]) = (gather members).set member.1 member.2 := List.foldl_concat ..

theorem last?_concat (key : Text) (members : Members) (member : Text × Json) :
    last? key (members ++ [member]) =
      if key = member.1 then some member.2 else last? key members := by
  unfold last?
  rw [List.filter_append]
  by_cases same : key = member.1
  · have kept : [member].filter (·.1 = key) = [member] := by simp [same]
    rw [if_pos same, kept, List.getLast?_concat, Option.map_some]
  · have dropped : [member].filter (·.1 = key) = [] := by simp [Ne.symm same]
    rw [if_neg same, dropped, List.append_nil]

/-- Of a repeated key the last value is kept. -/
theorem get?_gather (key : Text) (members : Members) :
    get? key (gather members) = last? key members := by
  induction members using List.reverseRecOn with
  | nil => rfl
  | append_singleton members member ih => rw [gather_concat, get?_set, last?_concat, ih]

/-! ## Keys -/

theorem keys_cons (member : Text × Json) (members : Members) :
    keys (member :: members) = member.1 :: keys members := rfl

theorem get?_eq_none_iff : get? key members = none ↔ key ∉ keys members := by
  induction members with
  | nil => simp [get?, keys]
  | cons member members ih =>
    obtain ⟨k, v⟩ := member
    rw [keys_cons, List.mem_cons, not_or, get?, ← ih]
    by_cases same : k = key
    · simp [same]
    · simp [same, Ne.symm same]

theorem keys_set (key : Text) (value : Json) (members : Members) :
    keys (members.set key value) =
      if key ∈ keys members then keys members else keys members ++ [key] := by
  induction members with
  | nil => rfl
  | cons member members ih =>
    obtain ⟨k, v⟩ := member
    by_cases same : k = key
    · subst same
      rw [set, if_pos rfl, keys_cons, keys_cons, if_pos List.mem_cons_self]
    · rw [set, if_neg same, keys_cons, keys_cons, ih]
      by_cases held : key ∈ keys members
      · rw [if_pos held, if_pos (List.mem_cons_of_mem _ held)]
      · have absent : key ∉ k :: keys members :=
          List.not_mem_cons_of_ne_of_not_mem (Ne.symm same) held
        rw [if_neg held, if_neg absent]
        rfl

/-- Each key stands once, where it came first. -/
theorem keys_gather (members : Members) : keys (gather members) = (keys members).eraseDups := by
  induction members using List.reverseRecOn with
  | nil => rfl
  | append_singleton members member ih =>
    have split : keys (members ++ [member]) = keys members ++ [member.1] := List.map_append
    rw [gather_concat, keys_set, ih, split, List.eraseDups_append]
    by_cases held : member.1 ∈ keys members
    · rw [if_pos (List.mem_eraseDups.mpr held)]
      simp [List.removeAll, held]
    · have once : [member.1].removeAll (keys members) = [member.1] := by
        simp [List.removeAll, held]
      rw [if_neg fun early => held (List.mem_eraseDups.mp early), once]
      rfl

theorem nodup_keys_gather (members : Members) : (keys (gather members)).Nodup := by
  induction members using List.reverseRecOn with
  | nil => exact .nil
  | append_singleton members member ih =>
    rw [gather_concat, keys_set]
    split
    · exact ih
    · next absent => exact List.concat_eq_append ▸ ih.concat absent

/-- A new key stands at the end. -/
theorem set_of_not_mem (absent : key ∉ members.keys) (value : Json) :
    members.set key value = members ++ [(key, value)] := by
  induction members with
  | nil => rfl
  | cons member members ih =>
    obtain ⟨k, v⟩ := member
    have other : k ≠ key := fun same => absent (same ▸ List.mem_cons_self)
    have rest : key ∉ Members.keys members := fun held => absent (List.mem_cons_of_mem _ held)
    rw [Members.set, if_neg other, ih rest]
    rfl

/-- Members with distinct keys stay as they are. -/
theorem gather_of_nodup (distinct : (keys members).Nodup) : gather members = members := by
  induction members using List.reverseRecOn with
  | nil => rfl
  | append_singleton members member ih =>
    rw [keys, List.map_append, List.nodup_append] at distinct
    obtain ⟨before, -, apart⟩ := distinct
    have absent : member.1 ∉ keys members :=
      fun held => apart member.1 held member.1 List.mem_cons_self rfl
    rw [gather_concat, ih before, set_of_not_mem absent]

theorem keys_mapValues (f : Text → Json → Json) (members : Members) :
    keys (mapValues f members) = keys members := List.map_map

/-! ## Before or after -/

theorem keepKeys_concat (keep : Text → Bool) (members : Members) (member : Text × Json) :
    keepKeys keep (members ++ [member]) =
      if keep member.1 then keepKeys keep members ++ [member] else keepKeys keep members := by
  rw [keepKeys, List.filter_append]
  cases kept : keep member.1 <;> simp [kept, keepKeys]

theorem keepKeys_set (keep : Text → Bool) (key : Text) (value : Json) (members : Members) :
    keepKeys keep (members.set key value) =
      if keep key then (keepKeys keep members).set key value else keepKeys keep members := by
  induction members with
  | nil => cases kept : keep key <;> simp [keepKeys, set, kept]
  | cons member members ih =>
    obtain ⟨k, v⟩ := member
    by_cases same : k = key
    · subst same
      cases kept : keep k <;> simp [keepKeys, set, kept]
    · unfold keepKeys at ih ⊢
      cases first : keep k <;> cases kept : keep key <;> simp [set, same, first, kept, ih]

/-- Keys may be left out before the members are set or after. -/
theorem gather_keepKeys (keep : Text → Bool) (members : Members) :
    gather (keepKeys keep members) = keepKeys keep (gather members) := by
  induction members using List.reverseRecOn with
  | nil => rfl
  | append_singleton members member ih =>
    rw [gather_concat, keepKeys_set, keepKeys_concat]
    split
    · rw [gather_concat, ih]
    · exact ih

theorem keepKeys_mapValues (keep : Text → Bool) (f : Text → Json → Json) (members : Members) :
    keepKeys keep (mapValues f members) = mapValues f (keepKeys keep members) := List.filter_map

theorem mapValues_concat (f : Text → Json → Json) (members : Members) (member : Text × Json) :
    mapValues f (members ++ [member]) =
      mapValues f members ++ [(member.1, f member.1 member.2)] := List.map_append

theorem mapValues_mapValues (f g : Text → Json → Json) (members : Members) :
    mapValues f (mapValues g members) = mapValues (fun key value => f key (g key value)) members :=
  List.map_map

theorem mapValues_set (f : Text → Json → Json) (key : Text) (value : Json) (members : Members) :
    mapValues f (members.set key value) = (mapValues f members).set key (f key value) := by
  induction members with
  | nil => rfl
  | cons member members ih =>
    obtain ⟨k, v⟩ := member
    by_cases same : k = key
    · subst same
      simp [mapValues, set]
    · simp only [set, same, mapValues, List.map_cons, if_false]
      exact congrArg _ ih

theorem last?_mapValues (f : Text → Json → Json) (key : Text) (members : Members) :
    last? key (mapValues f members) = (last? key members).map (f key) := by
  induction members using List.reverseRecOn with
  | nil => rfl
  | append_singleton members member ih =>
    rw [mapValues_concat, last?_concat, last?_concat, ih]
    by_cases same : key = member.1
    · subst same
      rw [if_pos rfl, if_pos rfl, Option.map_some]
    · rw [if_neg same, if_neg same]

/-- So may values be changed. -/
theorem gather_mapValues (f : Text → Json → Json) (members : Members) :
    gather (mapValues f members) = mapValues f (gather members) := by
  induction members using List.reverseRecOn with
  | nil => rfl
  | append_singleton members member ih =>
    rw [mapValues_concat, gather_concat, gather_concat, mapValues_set, ih]

end SchemaLint.Json.Members
