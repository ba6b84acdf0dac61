import SchemaLint.Proofs.Discovery.Memory
import SchemaLint.Proofs.Discovery.Root
import SchemaLint.Proofs.Pattern.Dialect

/-!
# Which paths are excluded

An entry excludes the paths that begin with it and, if it is a pattern, those in which
the match found begins where the path does (`Excludes`). With an engine that finds
leftmost matches these are the paths with any match there, for no match begins earlier
(`PatternEngine.FindsLeftmost.find_eq_zero_iff`). A search decides from its memory, and
still gives just that (`Search.answerAll_excluded`): what is remembered, the order and
the number of the entries play no part, and neither do entries that are not patterns,
beyond their own beginnings. Each of these is warned about once at most.
-/

namespace SchemaLint

/-- A match that begins at the start is found exactly if there is one. -/
theorem PatternEngine.FindsLeftmost.find_eq_zero_iff {engine : PatternEngine}
    {Matches : engine.Compiled → Text → Nat → Nat → Prop} (leftmost : engine.FindsLeftmost Matches)
    {entry : Text} {p : engine.Compiled} (compiled : engine.compile entry = .ok p) {t : Text} :
    engine.find p t = some 0 ↔ ∃ j, Matches p t 0 j := by
  rw [leftmost entry p compiled t 0]
  exact and_iff_left fun k _ _ => Nat.zero_le k

variable {engine : PatternEngine}

/-- What it is for an entry to exclude a path: the path begins with the entry, or the
entry is a pattern, and the match found in the path begins where the path does. -/
def Excludes (engine : PatternEngine) (entry path : Text) : Prop :=
  entry <+: path ∨ ∃ p, engine.compile entry = .ok p ∧ engine.find p path = some 0

theorem excludes_iff {entry path : Text} :
    excludes engine entry path = true ↔ Excludes engine entry path := by
  unfold excludes Excludes
  rw [Bool.or_eq_true, Text.beginsWith, List.isPrefixOf_iff_prefix]
  refine or_congr_right ?_
  cases engine.compile entry with
  | error reason => simp
  | ok p => simp

/-- With leftmost matches, what counts is whether there is any match at the start. -/
theorem excludes_iff_matches {Matches : engine.Compiled → Text → Nat → Nat → Prop}
    (leftmost : engine.FindsLeftmost Matches) {entry path : Text} :
    Excludes engine entry path ↔
      entry <+: path ∨ ∃ p, engine.compile entry = .ok p ∧ ∃ j, Matches p path 0 j :=
  or_congr_right (exists_congr fun _ => and_congr_right fun compiled =>
    leftmost.find_eq_zero_iff compiled)

namespace Config

/-- Whether one of the entries excludes a path. -/
def Excludes (c : Config) (engine : PatternEngine) (path : Text) : Prop :=
  ∃ entry ∈ c.excludePaths, SchemaLint.Excludes engine entry path

theorem any_excludes_iff {c : Config} {path : Text} :
    c.excludePaths.any (excludes engine · path) = true ↔ c.Excludes engine path := by
  rw [List.any_eq_true]
  exact exists_congr fun entry => and_congr_right fun _ => excludes_iff

/-- Entries that neither are patterns nor begin a path play no part for it. -/
theorem excludes_congr {c c' : Config} {path : Text}
    (agree : ∀ entry, (∃ p, engine.compile entry = .ok p) ∨ entry <+: path →
      (entry ∈ c.excludePaths ↔ entry ∈ c'.excludePaths)) :
    c.Excludes engine path ↔ c'.Excludes engine path := by
  refine exists_congr fun entry => and_congr_left fun excluded => agree entry ?_
  rcases excluded with begins | ⟨p, compiled, -⟩
  · exact Or.inr begins
  · exact Or.inl ⟨p, compiled⟩

end Config

namespace Search

/-- A path that a search is asked about is judged by the entries alone. -/
theorem verdict_answerAll {c : Config} {host : Host} {queries : List Query} {i : Nat} {path : Text}
    (asked : queries[i]? = some (.excluded path)) :
    ((answerAll engine c host queries).run {}).1[i]? =
      some (.verdict (c.excludePaths.any (excludes engine · path))) := by
  rw [(gives_answerAll engine c host queries {} .empty).1, List.getElem?_map, asked]
  rfl

/-- Whatever else a search is asked, and in whatever order, it says of a path that it
is excluded exactly if an entry excludes it. So any other search that is asked about
the path says the same, if its entries are the same but for their order, repeated ones
and ones that are not patterns and do not begin the path. The entries warned about are
not patterns, and none is warned about twice. -/
theorem answerAll_excluded {Matches : engine.Compiled → Text → Nat → Nat → Prop}
    (leftmost : engine.FindsLeftmost Matches) (c : Config) (host : Host) (queries : List Query) :
    (∀ (i : Nat) (path : Text), queries[i]? = some (.excluded path) →
      ∃ verdict, ((answerAll engine c host queries).run {}).1[i]? = some (.verdict verdict) ∧
        (verdict = true ↔ ∃ entry ∈ c.excludePaths,
          entry <+: path ∨ ∃ p, engine.compile entry = .ok p ∧ ∃ j, Matches p path 0 j) ∧
        ∀ (c' : Config) (host' : Host) (queries' : List Query) (k : Nat),
          queries'[k]? = some (.excluded path) →
          (∀ entry, (∃ p, engine.compile entry = .ok p) ∨ entry <+: path →
            (entry ∈ c.excludePaths ↔ entry ∈ c'.excludePaths)) →
          ((answerAll engine c' host' queries').run {}).1[k]? = some (.verdict verdict)) ∧
    (∀ w ∈ warnings ((answerAll engine c host queries).run {}).2.log,
      engine.compile w.1 = .error w.2) ∧
    ((warnings ((answerAll engine c host queries).run {}).2.log).map (·.1)).Nodup := by
  obtain ⟨-, faithful⟩ := gives_answerAll engine c host queries {} .empty
  refine ⟨fun i path asked => ?_, faithful.reasons, faithful.once⟩
  refine ⟨_, verdict_answerAll asked, ?_, fun c' host' queries' k asked' agree => ?_⟩
  · rw [Config.any_excludes_iff]
    exact exists_congr fun entry => and_congr_right fun _ => excludes_iff_matches leftmost
  · rw [verdict_answerAll asked']
    have same := Config.excludes_congr agree
    rw [← Config.any_excludes_iff, ← Config.any_excludes_iff, ← Bool.eq_iff_iff] at same
    rw [same]

/-- An entry that is not a pattern and stands twice, another path and a search for
files before it: a pattern excludes the path all the same, as it does alone. -/
theorem answerAll_excluded_again :
    let c : Config := ⟨{ listedPaths := ["src"], excludePaths := [['['], "^g.n/", ['[']] }, [],
      Path.root, none⟩
    let alone : Config := ⟨{ excludePaths := ["^g.n/"] }, [], Path.root, none⟩
    let host : Host := { tree := .dir [], here := Path.root }
    let queries : List Query := [.excluded "src", .files, .excluded "gen/a"]
    Pattern.dialect.FindsLeftmost Pattern.MatchesWithin ∧
      ((answerAll Pattern.dialect c host queries).run {}).1[2]? = some (.verdict true) ∧
      ((answerAll Pattern.dialect alone host [.excluded "gen/a"]).run {}).1[0]? =
        some (.verdict true) ∧
      ((warnings ((answerAll Pattern.dialect c host queries).run {}).2.log).map (·.1)).Nodup := by
  intro c alone host queries
  obtain ⟨answered, -, once⟩ :=
    answerAll_excluded Pattern.dialect_findsLeftmost c host queries
  obtain ⟨verdict, given, excluded, same⟩ := answered 2 "gen/a" rfl
  have matched : verdict = true := by
    refine excluded.mpr ⟨"^g.n/", by decide, Or.inr ?_⟩
    refine ⟨_, Pattern.compile_dialect_eq_ok_iff.mpr rfl, 4, Nat.zero_le _, ?_⟩
    exact .seq (.seq (.seq (.seq (.assert rfl) (.one rfl rfl)) (.one rfl rfl)) (.one rfl rfl))
      (.one rfl rfl)
  subst matched
  refine ⟨Pattern.dialect_findsLeftmost, given, ?_, once⟩
  refine same alone host [.excluded "gen/a"] 0 rfl fun entry counts => ?_
  -- The bracket is no pattern, and the path does not begin with it.
  have notBracket : entry ≠ ['['] := by
    rintro rfl
    rcases counts with ⟨p, compiled⟩ | begins
    · have unread : Pattern.read? ['['] = none := by decide
      rw [Pattern.compile_dialect_eq_ok_iff.mp compiled] at unread
      cases unread
    · revert begins
      decide
  simp [c, alone, Config.excludePaths, notBracket]

end Search

end SchemaLint
