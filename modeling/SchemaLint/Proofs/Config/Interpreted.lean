import SchemaLint.Proofs.Config.Settings

/-!
# What a configuration depends on

Only some keys of a document are interpreted (`interpreted`): three at the top, and one
in the engine's section. The reading of the settings passes over all others
(`ofMembers_interpreted`), and leaving them out may be done in the document as it is
written (`interpreted_gathered`). So documents whose interpreted parts agree have the same
settings or the same error, and which settings is said by their members (`Says`). What a
configuration shows otherwise are the keys of the whole document, each once, with their
last values.
-/

namespace SchemaLint

open Json

namespace Config

/-- The keys at the top of a document that are interpreted. -/
def interpretedKeys : List Text := [includeKey, excludeKey, engineKey]

/-- The part of the engine's section that is interpreted. -/
def interpretedSection : Json → Json
  | .object members => .object (Members.keepKeys (· = protopathsKey) members)
  | value => value

/-- The part of a document that is interpreted. -/
def interpreted (members : Members) : Members :=
  (Members.keepKeys (· ∈ interpretedKeys) members).mapValues fun key value =>
    if key = engineKey then interpretedSection value else value

end Config

namespace Settings

open Config

variable {members : Members}

/-! ## Other keys are passed over -/

theorem engineMembers_keepKeys (found : Option (List Text)) (members : Members) :
    engineMembers found (members.keepKeys (· = protopathsKey)) = engineMembers found members := by
  unfold Members.keepKeys
  induction members generalizing found with
  | nil => rfl
  | cons member members ih =>
    obtain ⟨key, value⟩ := member
    by_cases own : key = protopathsKey
    · rw [List.filter_cons_of_pos (by simpa using own), engineMembers, engineMembers, if_pos own,
        if_pos own]
      cases optionalList value with
      | error m => rfl
      | ok found => exact ih found
    · rw [List.filter_cons_of_neg (by simpa using own), ih, engineMembers, if_neg own]

theorem engineSection_interpretedSection (value : Json) :
    engineSection (interpretedSection value) = engineSection value := by
  cases value with
  | object members => exact engineMembers_keepKeys none members
  | _ => rfl

theorem withMember_interpreted (s : Settings) (key : Text) (value : Json) :
    s.withMember key (if key = engineKey then interpretedSection value else value) =
      s.withMember key value := by
  by_cases engine : key = engineKey
  · subst engine
    have apart : engineKey ≠ includeKey ∧ engineKey ≠ excludeKey := by decide
    simp only [withMember, apart, if_false, if_true, engineSection_interpretedSection]
  · rw [if_neg engine]

theorem withMember_of_not_mem {key : Text} (other : key ∉ interpretedKeys) (s : Settings)
    (value : Json) : s.withMember key value = .ok s := by
  simp only [interpretedKeys, List.mem_cons, List.not_mem_nil, or_false, not_or] at other
  obtain ⟨first, second, third⟩ := other
  rw [withMember, if_neg first, if_neg second, if_neg third]

theorem interpreted_cons (key : Text) (value : Json) (members : Members) :
    interpreted ((key, value) :: members) =
      if key ∈ interpretedKeys then
        (key, if key = engineKey then interpretedSection value else value) :: interpreted members
      else interpreted members := by
  by_cases held : key ∈ interpretedKeys
  · simp [interpreted, Members.keepKeys, Members.mapValues, held]
  · simp [interpreted, Members.keepKeys, held]

theorem foldlM_interpreted (s : Settings) (members : Members) :
    (interpreted members).foldlM (fun s member => s.withMember member.1 member.2) s =
      members.foldlM (fun s member => s.withMember member.1 member.2) s := by
  induction members generalizing s with
  | nil => rfl
  | cons member members ih =>
    obtain ⟨key, value⟩ := member
    rw [interpreted_cons, List.foldlM_cons]
    split
    · rw [List.foldlM_cons, withMember_interpreted]
      exact congrArg _ (funext ih)
    · next other =>
      rw [ih, withMember_of_not_mem other]
      rfl

/-- The settings come from the interpreted part. -/
theorem ofMembers_interpreted (members : Members) :
    ofMembers (interpreted members) = ofMembers members := foldlM_interpreted {} members

/-! ## As written and as read -/

theorem gather_gatheredMembers_keepKeys (keep : Text → Bool) (members : Members) :
    (Members.gather (gatheredMembers members)).keepKeys keep =
      Members.gather (gatheredMembers (members.keepKeys keep)) := by
  rw [← Members.gather_keepKeys, gatheredMembers_eq, gatheredMembers_eq,
    Members.keepKeys_mapValues]

theorem interpretedSection_gathered (value : Json) :
    interpretedSection value.gathered = (interpretedSection value).gathered := by
  cases value with
  | object members =>
    rw [gathered, interpretedSection, interpretedSection, gathered,
      gather_gatheredMembers_keepKeys]
  | _ => rfl

/-- What is not interpreted may be left out before the members are gathered or after. -/
theorem interpreted_gathered (members : Members) :
    interpreted (Members.gather (gatheredMembers members)) =
      Members.gather (gatheredMembers (interpreted members)) := by
  rw [interpreted, gather_gatheredMembers_keepKeys, interpreted, ← Members.gather_mapValues,
    gatheredMembers_eq, gatheredMembers_eq, Members.mapValues_mapValues,
    Members.mapValues_mapValues]
  congr 2
  funext key value
  split
  · exact interpretedSection_gathered value
  · rfl

/-- Members of which the same is interpreted are read alike. -/
theorem ofMembers_gathered_congr {members others : Members}
    (same : interpreted members = interpreted others) :
    ofMembers (Members.gather (gatheredMembers members)) =
      ofMembers (Members.gather (gatheredMembers others)) := by
  rw [← ofMembers_interpreted, interpreted_gathered, same, ← interpreted_gathered,
    ofMembers_interpreted]

end Settings

namespace Config

/-! ## The configuration of a text -/

section

variable {t : Text} {members : Members} {s : Settings} {m : Mismatch}

/-- The reading of a text that writes an object follows that of its settings. -/
theorem ofText_of_ok (writes : Writes t (.object members))
    (read : Settings.ofMembers (Members.gather (gatheredMembers members)) = .ok s)
    (workspace : Path) :
    ofText t workspace =
      .ok ⟨s, Members.gather (gatheredMembers members), workspace, none⟩ := by
  simp only [ofText, writes.read?_eq, gathered, read]

theorem ofText_of_error (writes : Writes t (.object members))
    (read : Settings.ofMembers (Members.gather (gatheredMembers members)) = .error m)
    (workspace : Path) : ofText t workspace = .error (.mismatch m) := by
  simp only [ofText, writes.read?_eq, gathered, read]

/-- A text is accepted if it writes an object whose members say settings. -/
theorem exists_ofText_iff {j : Json} (writes : Writes t j) (workspace : Path) :
    (∃ c, ofText t workspace = .ok c) ↔
      ∃ members s, j = .object members ∧ Settings.Says members s := by
  constructor
  · rintro ⟨c, accepted⟩
    cases j with
    | object members =>
      cases read : Settings.ofMembers (Members.gather (gatheredMembers members)) with
      | ok s => exact ⟨members, s, rfl, Settings.ofMembers_gathered_eq_ok_iff.mp read⟩
      | error m =>
        rw [ofText_of_error writes read] at accepted
        cases accepted
    | _ =>
      rw [ofText, writes.read?_eq] at accepted
      cases accepted
  · rintro ⟨members, s, rfl, said⟩
    exact ⟨_, ofText_of_ok writes (Settings.ofMembers_gathered_eq_ok_iff.mpr said) workspace⟩

end

/-- Texts that write a value are read, and no others. One is accepted as a configuration
exactly if the value is an object whose members say settings. The paths to scan are then
those of the engine's section if it has a list, and the listed ones otherwise; each key
is known with its last value, and stands once where it came first. Two documents of which
the same is interpreted give the same error or the same paths and workspace. -/
theorem ofText_interprets :
    (∀ t, (read? t).isSome ↔ ∃ j, Writes t j) ∧
    (∀ t j workspace, Writes t j →
      ((∃ c, ofText t workspace = .ok c) ↔
        ∃ members s, j = .object members ∧ Settings.Says members s)) ∧
    (∀ t members workspace s, Writes t (.object members) → Settings.Says members s →
      ∃ c, ofText t workspace = .ok c ∧
        c.includePaths = s.protopaths.getD s.listedPaths ∧ c.excludePaths = s.excludePaths ∧
        c.workspace = workspace ∧
        (∀ key, c.get? key = (Members.last? key members).map gathered) ∧
        c.items = (Members.keys members).eraseDups.filter (· ≠ includeKey)) ∧
    ∀ t t' members others workspace, Writes t (.object members) → Writes t' (.object others) →
      interpreted members = interpreted others →
      (ofText t workspace).map (fun c => (c.includePaths, c.excludePaths, c.workspace)) =
        (ofText t' workspace).map fun c => (c.includePaths, c.excludePaths, c.workspace) := by
  refine ⟨fun t => ?_, fun t j workspace writes => exists_ofText_iff writes workspace, ?_, ?_⟩
  · constructor
    · intro read
      obtain ⟨value, read⟩ := Option.isSome_iff_exists.mp read
      exact exists_writes_of_read? read
    · rintro ⟨j, writes⟩
      rw [writes.read?_eq]
      rfl
  · intro t members workspace s writes said
    have read := Settings.ofMembers_gathered_eq_ok_iff.mpr said
    refine ⟨_, ofText_of_ok writes read workspace, rfl, rfl, rfl,
      fun key => get?_gather_gatheredMembers key members, ?_⟩
    rw [items, Members.keys_gather, gatheredMembers_eq, Members.keys_mapValues]
  · intro t t' members others workspace writes writes' same
    have alike := Settings.ofMembers_gathered_congr same
    cases read : Settings.ofMembers (Members.gather (gatheredMembers others)) with
    | ok s =>
      rw [ofText_of_ok writes (alike.trans read), ofText_of_ok writes' read]
      rfl
    | error m =>
      rw [ofText_of_error writes (alike.trans read), ofText_of_error writes' read]

/-- A key counts with its last value at the top and in the section, whatever the first
one was. -/
theorem ofText_interprets_repeated :
    (∃ c, ofText
        "\x7b\"raw\":1,\"config\":\x7b\"protopaths\":5,\"protopaths\":[]\x7d,\"raw\":null\x7d"
        ⟨"/w"⟩ = .ok c ∧ c.includePaths = [] ∧ c.get? "raw" = some .null ∧
      c.items = ["raw", "config"]) ∧
    (ofText "\x7b\"raw\":1,\"config\":\x7b\"protopaths\":5,\"protopaths\":[]\x7d,\"raw\":null\x7d"
        ⟨"/w"⟩).map (fun c => (c.includePaths, c.excludePaths, c.workspace)) =
      (ofText "\x7b\"config\":\x7b\"protopaths\":5,\"x\":0,\"protopaths\":[]\x7d\x7d"
        ⟨"/w"⟩).map (fun c => (c.includePaths, c.excludePaths, c.workspace)) ∧
    ¬ ∃ c, ofText "\x7b\"source\":[],\"exclude_paths\":1\x7d" ⟨"/w"⟩ = .ok c := by
  obtain ⟨-, accepted, shown, alike⟩ := ofText_interprets
  have repeated : Writes
      "\x7b\"raw\":1,\"config\":\x7b\"protopaths\":5,\"protopaths\":[]\x7d,\"raw\":null\x7d"
      (.object [("raw", .number (.natural 1)),
        ("config", .object [("protopaths", .number (.natural 5)), ("protopaths", .array [])]),
        ("raw", .null)]) := by
    refine ⟨rfl, .object ?_⟩
    simp only [List.forall_mem_cons]
    refine ⟨.number _, .object ?_, .null, nofun⟩
    simp only [List.forall_mem_cons]
    exact ⟨.number _, .array nofun, nofun⟩
  have plain : Writes "\x7b\"config\":\x7b\"protopaths\":5,\"x\":0,\"protopaths\":[]\x7d\x7d"
      (.object [("config", .object [("protopaths", .number (.natural 5)),
        ("x", .number (.natural 0)), ("protopaths", .array [])])]) := by
    refine ⟨rfl, .object ?_⟩
    simp only [List.forall_mem_cons]
    refine ⟨.object ?_, nofun⟩
    simp only [List.forall_mem_cons]
    exact ⟨.number _, .number _, .array nofun, nofun⟩
  have refused : Writes "\x7b\"source\":[],\"exclude_paths\":1\x7d"
      (.object [("source", .array []), ("exclude_paths", .number (.natural 1))]) := by
    refine ⟨rfl, .object ?_⟩
    simp only [List.forall_mem_cons]
    exact ⟨.array nofun, .number _, nofun⟩
  refine ⟨?_, ?_, ?_⟩
  · obtain ⟨c, read, paths, -, -, value, items⟩ :=
      shown _ _ ⟨"/w"⟩ ⟨[], [], some []⟩ repeated
        ⟨.absent, .absent, .object (.array [])⟩
    exact ⟨c, read, paths, value "raw", items⟩
  · exact alike _ _ _ _ _ repeated plain rfl
  · rw [accepted _ _ _ refused]
    rintro ⟨members, s, same, said⟩
    cases same
    have excluded := said.excluded
    cases excluded

end Config

end SchemaLint
