import Mathlib.Tactic.MkIffOfInductiveProp
import SchemaLint.Config.Reader
import SchemaLint.Proofs.Json.Written
import SchemaLint.Proofs.Line.Basic

/-!
# What the members of a document say

The members of a document as written say settings (`Says`) by the last value under each
key that has a meaning. Reading goes through the gathered members, one after the other,
and each of the three settings is touched only by the member with its key; so it comes
out as the value of that key gives it, or as it was (`ReadsAs`), and together exactly the
settings that are said are read (`ofMembers_gathered_eq_ok_iff`).
-/

namespace SchemaLint.Settings

open Json Line

/-! ## What values say -/

/-- The value under a key lists texts, or there is none and the list is empty. -/
@[mk_iff]
inductive ListsTexts : Option Json → List Text → Prop where
  | absent : ListsTexts none []
  | array (ts : List Text) : ListsTexts (some (.array (ts.map .string))) ts

/-- The value of `protopaths` lists texts, unless it is null or there is none. -/
@[mk_iff]
inductive ListsOverride : Option Json → Option (List Text) → Prop where
  | absent : ListsOverride none none
  | null : ListsOverride (some .null) none
  | array (ts : List Text) : ListsOverride (some (.array (ts.map .string))) (some ts)

/-- The engine's section, if there is one, says what its last `protopaths` says; an
array says what its only item says. -/
@[mk_iff]
inductive SectionSays : Option Json → Option (List Text) → Prop where
  | absent : SectionSays none none
  | object {members : Members} {protopaths : Option (List Text)}
      (last : ListsOverride (members.last? Config.protopathsKey) protopaths) :
      SectionSays (some (.object members)) protopaths
  | array {items : List Json} {protopaths : Option (List Text)} (few : items.length ≤ 1)
      (only : ListsOverride items.head? protopaths) : SectionSays (some (.array items)) protopaths

/-- The settings that members say, of which a repeated one counts with its last value. -/
structure Says (members : Members) (s : Settings) : Prop where
  listed : ListsTexts (members.last? Config.includeKey) s.listedPaths
  excluded : ListsTexts (members.last? Config.excludeKey) s.excludePaths
  engine : SectionSays (members.last? Config.engineKey) s.protopaths

/-! ## Lists of texts -/

theorem map_eq_ok_iff {ε α β : Type} {x : Except ε α} {f : α → β} {b : β} :
    x.map f = .ok b ↔ ∃ a, x = .ok a ∧ f a = b := by
  cases x with
  | error e => simp [Except.map]
  | ok a => simp [Except.map]

theorem texts_eq_ok_iff {items : List Json} {ts : List Text} :
    texts items = .ok ts ↔ items = ts.map .string := by
  induction items generalizing ts with
  | nil => cases ts <;> simp [texts]
  | cons item items ih =>
    cases item with
    | string t => cases ts <;> simp [texts, map_eq_ok_iff, ih, and_comm]
    | _ => cases ts <;> simp [texts]

theorem textList_eq_ok_iff {value : Json} {ts : List Text} :
    textList value = .ok ts ↔ value = .array (ts.map .string) := by
  cases value with
  | array items => simp [textList, texts_eq_ok_iff]
  | _ => simp [textList]

theorem optionalList_eq_ok_iff {value : Json} {found : Option (List Text)} :
    optionalList value = .ok found ↔
      value = .null ∧ found = none ∨ ∃ ts : List Text, value = .array (ts.map .string) ∧
        found = some ts := by
  by_cases null : value = .null
  · subst null
    simp [optionalList, eq_comm]
  · have list : optionalList value = (textList value).map some := by
      rw [optionalList]
      exact null
    simp only [list, map_eq_ok_iff, textList_eq_ok_iff, null, false_and, false_or]
    simp only [eq_comm]

/-- Gathering makes no list of texts and spoils none. -/
theorem gatheredItems_eq_texts_iff {items : List Json} {ts : List Text} :
    gatheredItems items = ts.map .string ↔ items = ts.map .string := by
  induction items generalizing ts with
  | nil => rw [gatheredItems]
  | cons item items ih =>
    have text (t : Text) : item.gathered = .string t ↔ item = .string t := by
      cases item <;> simp [gathered]
    cases ts with
    | nil => simp [gatheredItems]
    | cons t ts => simp only [gatheredItems, List.map_cons, List.cons.injEq, text, ih]

theorem gathered_eq_texts_iff {value : Json} {ts : List Text} :
    value.gathered = .array (ts.map .string) ↔ value = .array (ts.map .string) := by
  cases value with
  | array items => simp only [gathered, Json.array.injEq, gatheredItems_eq_texts_iff]
  | _ => simp [gathered]

theorem gathered_eq_null_iff {value : Json} : value.gathered = .null ↔ value = .null := by
  cases value <;> simp [gathered]

/-! ## One setting -/

/-- A setting comes out as reading the value gives it, or as it was where there is no
value. -/
def ReadsAs {α : Type} (read : Json → Except Mismatch α) (before after : α) : Option Json → Prop
  | none => before = after
  | some value => read value = .ok after

/-- A member in front of others without its key. -/
theorem readsAs_cons {α : Type} {read : Json → Except Mismatch α} {before after : α}
    {own key : Text} {value : Json} {members : Members} (absent : key ∉ members.keys) :
    ReadsAs read before after (Members.get? own ((key, value) :: members)) ↔
      ∃ between, ReadsAs read before between (Members.get? own [(key, value)]) ∧
        ReadsAs read between after (members.get? own) := by
  by_cases same : key = own
  · subst same
    have none : members.get? key = none := Members.get?_eq_none_iff.mpr absent
    simp [Members.get?, none, ReadsAs]
  · simp [Members.get?, same, ReadsAs]

variable {members : Members}

theorem engineMembers_eq_ok_iff {before after : Option (List Text)}
    (distinct : members.keys.Nodup) :
    engineMembers before members = .ok after ↔
      ReadsAs optionalList before after (members.get? Config.protopathsKey) := by
  induction members generalizing before with
  | nil => simp [engineMembers, Members.get?, ReadsAs]
  | cons member members ih =>
    obtain ⟨key, value⟩ := member
    obtain ⟨absent, distinct⟩ := List.nodup_cons.mp distinct
    rw [readsAs_cons absent, engineMembers]
    by_cases own : key = Config.protopathsKey
    · rw [if_pos own]
      cases read : optionalList value with
      | error m => simp [Members.get?, own, ReadsAs, read]
      | ok found => simp [Members.get?, own, ReadsAs, read, ih distinct]
    · rw [if_neg own, ih distinct]
      simp [Members.get?, own, ReadsAs]

theorem readsAs_textList_iff {entry : Option Json} {ts : List Text} :
    ReadsAs textList [] ts (entry.map gathered) ↔ ListsTexts entry ts := by
  cases entry with
  | none => simp [ReadsAs, listsTexts_iff, eq_comm]
  | some value => simp [ReadsAs, listsTexts_iff, textList_eq_ok_iff, gathered_eq_texts_iff]

theorem readsAs_optionalList_iff {entry : Option Json} {found : Option (List Text)} :
    ReadsAs optionalList none found (entry.map gathered) ↔ ListsOverride entry found := by
  cases entry with
  | none => simp [ReadsAs, listsOverride_iff, eq_comm]
  | some value =>
    simp [ReadsAs, listsOverride_iff, optionalList_eq_ok_iff, gathered_eq_null_iff,
      gathered_eq_texts_iff]

theorem engineSection_array_eq_ok_iff {items : List Json} {found : Option (List Text)} :
    engineSection (.array items) = .ok found ↔
      items.length ≤ 1 ∧ ReadsAs optionalList none found items.head? := by
  cases items with
  | nil => simp [engineSection, ReadsAs]
  | cons item rest =>
    cases read : optionalList item with
    | error m => simp [engineSection, ReadsAs, read]
    | ok override =>
      cases rest with
      | nil => simp [engineSection, ReadsAs, read]
      | cons next rest => simp [engineSection, read]

/-- The section says something exactly when it can be read. -/
theorem readsAs_engineSection_iff {entry : Option Json} {found : Option (List Text)} :
    ReadsAs engineSection none found (entry.map gathered) ↔ SectionSays entry found := by
  cases entry with
  | none => simp [ReadsAs, sectionSays_iff, eq_comm]
  | some value =>
    rw [Option.map_some, ReadsAs]
    cases value with
    | object members =>
      have reads : engineSection (Json.object members).gathered = .ok found ↔
          ListsOverride (Members.last? Config.protopathsKey members) found := by
        rw [gathered, engineSection, engineMembers_eq_ok_iff (Members.nodup_keys_gather _),
          get?_gather_gatheredMembers, readsAs_optionalList_iff]
      simp [reads, sectionSays_iff]
    | array items =>
      have reads : engineSection (Json.array items).gathered = .ok found ↔
          items.length ≤ 1 ∧ ListsOverride items.head? found := by
        rw [gathered, engineSection_array_eq_ok_iff, gatheredItems_eq_map, List.length_map,
          List.head?_map, readsAs_optionalList_iff]
      simp [reads, sectionSays_iff]
    | _ => simp [gathered, engineSection, sectionSays_iff]

/-! ## All three -/

/-- The settings before and after some members, of which each touches the one with its
key. -/
@[mk_iff]
structure Leaves (members : Members) (before after : Settings) : Prop where
  listed : ReadsAs textList before.listedPaths after.listedPaths (members.get? Config.includeKey)
  excluded :
    ReadsAs textList before.excludePaths after.excludePaths (members.get? Config.excludeKey)
  engine :
    ReadsAs engineSection before.protopaths after.protopaths (members.get? Config.engineKey)

/-- A member changes the setting of its key and leaves the others. -/
theorem withMember_eq_ok_iff {before after : Settings} {key : Text} {value : Json} :
    before.withMember key value = .ok after ↔ Leaves [(key, value)] before after := by
  obtain ⟨listed, excluded, engine⟩ := before
  obtain ⟨listed', excluded', engine'⟩ := after
  have apart : Config.includeKey ≠ Config.excludeKey ∧ Config.includeKey ≠ Config.engineKey ∧
      Config.excludeKey ≠ Config.engineKey := by decide
  rw [leaves_iff, withMember]
  by_cases first : key = Config.includeKey
  · subst first
    simp [Members.get?, ReadsAs, apart, map_eq_ok_iff]
  by_cases second : key = Config.excludeKey
  · subst second
    simp [Members.get?, ReadsAs, first, apart, map_eq_ok_iff, and_left_comm]
  by_cases third : key = Config.engineKey
  · subst third
    simp [Members.get?, ReadsAs, first, second, map_eq_ok_iff, and_comm, and_assoc]
  · simp [Members.get?, ReadsAs, first, second, third]

/-- So do members with distinct keys, one after the other. -/
theorem foldlM_withMember_eq_ok_iff {before after : Settings} (distinct : members.keys.Nodup) :
    members.foldlM (fun s member => s.withMember member.1 member.2) before = .ok after ↔
      Leaves members before after := by
  induction members generalizing before with
  | nil =>
    constructor
    · rintro ⟨⟩
      exact ⟨rfl, rfl, rfl⟩
    · rintro ⟨listed, excluded, engine⟩
      cases before
      cases after
      cases listed
      cases excluded
      cases engine
      rfl
  | cons member members ih =>
    obtain ⟨key, value⟩ := member
    obtain ⟨absent, distinct⟩ := List.nodup_cons.mp distinct
    rw [List.foldlM_cons, bind_eq_ok_iff]
    simp only [ih distinct, withMember_eq_ok_iff]
    constructor
    · rintro ⟨between, first, rest⟩
      exact ⟨(readsAs_cons absent).mpr ⟨_, first.listed, rest.listed⟩,
        (readsAs_cons absent).mpr ⟨_, first.excluded, rest.excluded⟩,
        (readsAs_cons absent).mpr ⟨_, first.engine, rest.engine⟩⟩
    -- The three settings come about apart from each other, so those after the first member
    -- are put together from what each is there.
    · rintro ⟨listed, excluded, engine⟩
      obtain ⟨listedPaths, listed, listed'⟩ := (readsAs_cons absent).mp listed
      obtain ⟨excludePaths, excluded, excluded'⟩ := (readsAs_cons absent).mp excluded
      obtain ⟨protopaths, engine, engine'⟩ := (readsAs_cons absent).mp engine
      exact ⟨⟨listedPaths, excludePaths, protopaths⟩, ⟨listed, excluded, engine⟩,
        ⟨listed', excluded', engine'⟩⟩

/-- Reading the gathered members gives exactly the settings that are said. -/
theorem ofMembers_gathered_eq_ok_iff {s : Settings} :
    ofMembers (Members.gather (gatheredMembers members)) = .ok s ↔ Says members s := by
  rw [ofMembers, foldlM_withMember_eq_ok_iff (Members.nodup_keys_gather _)]
  constructor
  · rintro ⟨listed, excluded, engine⟩
    rw [get?_gather_gatheredMembers] at listed excluded engine
    exact ⟨readsAs_textList_iff.mp listed, readsAs_textList_iff.mp excluded,
      readsAs_engineSection_iff.mp engine⟩
  · rintro ⟨listed, excluded, engine⟩
    constructor <;> rw [get?_gather_gatheredMembers]
    · exact readsAs_textList_iff.mpr listed
    · exact readsAs_textList_iff.mpr excluded
    · exact readsAs_engineSection_iff.mpr engine

end SchemaLint.Settings
