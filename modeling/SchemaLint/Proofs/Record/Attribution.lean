import Mathlib
import SchemaLint.Proofs.Discovery.Exact
import SchemaLint.Proofs.Discovery.Location
import SchemaLint.Proofs.Line.WellFormed
import SchemaLint.Proofs.Run.Pass

/-!
# Issues and the lines they come from

The file of a record is a piece of its line, and an issue is attributed to a discovered
file that ends in it. Unless it is empty, the two end in the same component, so the name
of the file stands in the line, and where no file ends in it there is an error
(`Line.issue_attribution`). The file of a record is empty exactly if an error of the
compiler begins with a colon. Every path ends in the empty one, so such an issue goes to
the file that was discovered first, which the line need not name
(`Line.issue_of_colon`).
-/

namespace SchemaLint

open Text

/-! ## Texts that nothing is left of -/

namespace Text

variable {p : Char → Bool} {t : Text}

/-- Nothing is left of a text that is trimmed exactly if all of it goes. -/
theorem trimBy_eq_nil_iff : trimBy p t = [] ↔ ∀ c ∈ t, p c = true := by
  constructor
  · intro empty
    have none : (t.dropWhile p).reverse.dropWhile p = [] := List.reverse_eq_nil_iff.mp empty
    have all := List.dropWhile_eq_nil_iff.mp none
    have dropped : t.dropWhile p = [] := by
      apply List.eq_nil_iff_forall_not_mem.mpr
      intro c held
      obtain ⟨d, rest, whole⟩ := List.exists_cons_of_ne_nil (List.ne_nil_of_mem held)
      have stops := head?_dropWhile_eq_false p t d (by rw [whole]; rfl)
      rw [all d (List.mem_reverse.mpr (by rw [whole]; exact List.mem_cons_self))] at stops
      cases stops
    exact List.dropWhile_eq_nil_iff.mp dropped
  · intro all
    rw [trimBy, List.dropWhile_eq_nil_iff.mpr all]
    rfl

/-- Blanks aside, there is nothing before the first mark exactly if the mark is first. -/
theorem trim_before_eq_nil_iff {mark : Char} (spoken : isBlankChar mark = false) (t rest : Text) :
    trim (before mark (trim t)) = [] ↔
      ((t ++ mark :: rest).dropWhile isBlankChar).head? = some mark := by
  rw [List.dropWhile_append]
  cases first : t.dropWhile isBlankChar with
  | nil =>
    have none : trim t = [] := trimBy_eq_nil_iff.mpr (List.dropWhile_eq_nil_iff.mp first)
    rw [none, List.isEmpty_nil, if_pos rfl, List.dropWhile_cons_of_neg (by simp [spoken])]
    exact iff_of_true rfl rfl
  | cons c u =>
    have visible : isBlankChar c = false := head?_dropWhile_eq_false _ t c (by rw [first]; rfl)
    have some : trim t ≠ [] := by
      intro none
      have all := List.dropWhile_eq_nil_iff.mpr (trimBy_eq_nil_iff.mp none)
      rw [first] at all
      cases all
    obtain ⟨v, split⟩ : ∃ v, trim t = c :: v := by
      obtain ⟨d, v, split⟩ := List.exists_cons_of_ne_nil some
      have begins := dropEndWhile_isPrefix isBlankChar (t.dropWhile isBlankChar)
      rw [first] at begins
      rw [trim, trimBy, first] at split ⊢
      rw [split] at begins
      exact ⟨v, by rw [split, (List.cons_prefix_cons.mp begins).1]⟩
    rw [split, if_neg (by simp), List.cons_append, List.head?_cons, Option.some.injEq]
    by_cases same : c = mark
    · subst same
      rw [before, List.takeWhile_cons_of_neg (by simp)]
      exact iff_of_true rfl rfl
    · rw [before, List.takeWhile_cons_of_pos (by simp [same])]
      refine iff_of_false (fun none => ?_) same
      have blank := trimBy_eq_nil_iff.mp none c List.mem_cons_self
      rw [visible] at blank
      cases blank

end Text

/-! ## The last part of a place -/

namespace Path

/-- The text after the last separator. -/
def lastPart (t : Text) : Text := (parts t).getLast (parts_ne_nil t)

theorem lastPart_join {names : List Text} (some : names ≠ []) (plain : ∀ name ∈ names, '/' ∉ name) :
    lastPart (Text.join ['/'] names) = names.getLast some := by
  simp only [lastPart, parts_join some plain]

end Path

namespace Discovery

variable {d : Discovery} {file : Path} {n : Text}

/-- Every file ends in the empty path. -/
theorem find?_nil (d : Discovery) : d.find? [] = d.files.head? := by
  have all (file : Path) : file.endsWith ⟨[]⟩ = true :=
    Path.endsWith_iff.mpr (List.nil_suffix (l := file.components))
  unfold find?
  cases d.files with
  | nil => rfl
  | cons file files => exact List.find?_cons_of_pos (all file)

/-- The workspace root itself is at no place. -/
theorem locationOf_of_same (same : file.Same d.root) : d.locationOf file = [] := by
  have inside : file.components = d.root.components ++ [] := same.trans (List.append_nil _).symm
  rw [locationOf_eq inside]
  rfl

/-- The place of any other file ends in its name. -/
theorem lastPart_locationOf (last : file.components.getLast? = some (.name n))
    (elsewhere : ¬ file.Same d.root) : Path.lastPart (d.locationOf file) = n := by
  let below := (Path.below? d.root file).getD file.components
  have suffix : below <:+ file.components ∧ below ≠ [] := by
    show (Path.below? d.root file).getD file.components <:+ file.components ∧
      (Path.below? d.root file).getD file.components ≠ []
    unfold Path.below?
    split
    · next inside =>
      obtain ⟨rest, whole⟩ := List.isPrefixOf_iff_prefix.mp inside
      rw [← whole, Option.getD_some, List.drop_left]
      refine ⟨List.suffix_append _ _, ?_⟩
      rintro rfl
      exact elsewhere (by rw [Path.Same, ← whole, List.append_nil])
    · refine ⟨List.suffix_refl _, ?_⟩
      intro none
      rw [Option.getD_none] at none
      rw [none] at last
      cases last
  obtain ⟨⟨front, whole⟩, some⟩ := suffix
  rw [← whole, List.getLast?_append_of_ne_nil _ some] at last
  obtain ⟨before, split⟩ := List.getLast?_eq_some_iff.mp last
  have names : Path.names below = Path.names before ++ [n] := by
    rw [split, Path.names, List.filterMap_append]
    rfl
  have plain : ∀ name ∈ Path.names before ++ [n], '/' ∉ name := by
    intro name held
    rw [← names] at held
    obtain ⟨c, present, named⟩ := List.mem_filterMap.mp held
    have inFile : c ∈ file.components := by
      rw [← whole]
      exact List.mem_append_right _ present
    cases c with
    | name m =>
      cases named
      exact (Path.isName_of_mem_components inFile).1.2.2.2
    | root => cases named
    | here => cases named
    | up => cases named
  have place : d.locationOf file = Text.join ['/'] (Path.names before ++ [n]) := by
    rw [← names]
    rfl
  rw [place, Path.lastPart_join (by simp) plain, List.getLast_concat]

end Discovery

/-! ## The file that a line names -/

namespace Line

variable {line : Text} {r : Record}

/-- The file of a record is a piece of its line. -/
theorem file_isInfix_of_classify (read : classify line = .ok r) : r.file <:+: line := by
  rcases parts_of_classify read with ⟨-, p, rfl⟩ | ⟨-, p, rfl⟩ | ⟨-, p, rfl⟩
  · exact p.file_isInfix_head.trans p.head_isInfix
  · exact p.file_isInfix
  · exact p.file_isInfix

/-- An error of the compiler names no file exactly if its line begins with a colon. -/
theorem CompileParts.file_eq_nil_iff (p : CompileParts line) :
    p.file = [] ↔ (line.dropWhile isBlankChar).head? = some ':' := by
  have whole : p.locator ++ ':' :: ' ' :: p.message = line :=
    (p.line_eq.trans (List.append_assoc _ _ _)).symm
  have spoken : isBlankChar ':' = false := by decide
  have colon := trim_before_eq_nil_iff spoken p.locator (' ' :: p.message)
  rwa [whole] at colon

/-- The other shapes name a file that holds `.proto`. -/
theorem file_eq_nil_iff_of_classify (read : classify line = .ok r) :
    r.file = [] ↔ r.origin = .compiler ∧ (line.dropWhile isBlankChar).head? = some ':' := by
  rcases parts_of_classify read with ⟨origin, p, rfl⟩ | ⟨origin, p, rfl⟩ | ⟨origin, p, rfl⟩
  · have named : p.record.file ≠ [] := List.append_ne_nil_of_right_ne_nil p.stem (by decide)
    exact iff_of_false named fun compiled => by cases compiled.1
  · exact p.file_eq_nil_iff.trans (and_iff_right origin).symm
  · have named : p.record.file ≠ [] := by
      intro none
      have ending := p.fromWarning.fileEnding
      rw [none] at ending
      exact absurd (List.infix_nil.mp ending) (by decide)
    exact iff_of_false named fun compiled => by cases compiled.1

/-- The last part of a place stands in the line. -/
def Shows (line place : Text) : Prop := Path.lastPart place ≠ [] ∧ Path.lastPart place <:+: line

/-- A file that ends in what a line reports shows in the line, unless it is the
workspace root. -/
theorem shows_locationOf_iff {d : Discovery} {file : Path} {n reported : Text}
    (occurs : reported <:+: line) (given : reported ≠ []) (ends : file.endsWith ⟨reported⟩ = true)
    (last : file.components.getLast? = some (.name n)) :
    Shows line (d.locationOf file) ↔ ¬ file.Same d.root := by
  constructor
  · intro shown same
    rw [Shows, Discovery.locationOf_of_same same] at shown
    exact shown.1 rfl
  · intro elsewhere
    obtain ⟨front, whole⟩ := Path.endsWith_iff.mp ends
    rw [← whole, List.getLast?_append_of_ne_nil _ (Path.components_ne_nil given)] at last
    obtain ⟨isName, inside⟩ := Path.isName_of_mem_components (List.mem_of_getLast? last)
    rw [← List.getLast?_append_of_ne_nil front (Path.components_ne_nil given), whole] at last
    rw [Shows, Discovery.lastPart_locationOf last elsewhere]
    exact ⟨isName.1, inside.trans occurs⟩

end Line

/-- What a search finds are files, each with a name. -/
theorem Discovery.Scanned.exists_name {host : Host} {d : Discovery} {file : Path}
    (scanned : d.Scanned host) (wellFormed : host.tree.WellFormed) (held : file ∈ d.files) :
    ∃ n, file.components.getLast? = some (.name n) := by
  obtain ⟨dir, included, names, walked, -, components⟩ := scanned.exists_walk wellFormed held
  obtain ⟨entries, directory⟩ := Option.isSome_iff_exists.mp (scanned.directories dir included)
  rw [Search.walk, directory] at walked
  obtain ⟨entry, -, contributed⟩ := FileTree.mem_schemaFiles_dir.mp walked
  obtain ⟨rest, rfl, -⟩ := FileTree.mem_batch contributed
  have some : entry.1 :: rest ≠ [] := List.cons_ne_nil _ _
  refine ⟨(entry.1 :: rest).getLast some, ?_⟩
  rw [components, List.getLast?_append_of_ne_nil _ (by simp), List.getLast?_map,
    List.getLast?_eq_some_getLast some, Option.map_some]

namespace Line

variable {line : Text} {r : Record} {d : Discovery}

/-- Where an issue goes. The file of a record is a piece of its line, which is empty
exactly if an error of the compiler begins with a colon. If no discovered file ends in it,
there is an error. Otherwise the issue is at the first file that does: the first of all
when no file is named, and else one whose name shows in the line, the workspace root
excepted. All files that a search finds have a name. -/
theorem issue_attribution (read : classify line = .ok r) (reported : r.isSuppressed = false)
    (d : Discovery) :
    r.file <:+: line ∧
    (r.file = [] ↔ r.origin = .compiler ∧ (line.dropWhile isBlankChar).head? = some ':') ∧
    ((∀ file ∈ d.files, file.endsWith ⟨r.file⟩ = false) ∧
        r.issue d = .error (.unresolved r.file) ∨
      ∃ file issue, d.find? r.file = some file ∧ r.issue d = .ok (some issue) ∧
        issue.path = d.locationOf file ∧
        (r.file = [] → d.files.head? = some file) ∧
        (r.file ≠ [] → (∃ n, file.components.getLast? = some (.name n)) →
          (Shows line issue.path ↔ ¬ file.Same d.root))) ∧
    ∀ (engine : PatternEngine) (c : Config) (host : Host) (s : Search engine),
      ((Search.resolve engine c host).run s).1 = .ok d → host.tree.WellFormed →
      ∀ file ∈ d.files, ∃ n, file.components.getLast? = some (.name n) := by
  have occurs := file_isInfix_of_classify read
  refine ⟨occurs, file_eq_nil_iff_of_classify read, ?_, ?_⟩
  · cases known : d.find? r.file with
    | none =>
      refine Or.inl ⟨fun file held => ?_, issue_of_find?_eq_none reported known⟩
      simpa using List.find?_eq_none.mp known file held
    | some file =>
      obtain ⟨issue, made⟩ := exists_issue reported known
      have place : issue.path = d.locationOf file := by
        simp only [Record.issue, reported, Discovery.location, known] at made
        cases made
        rfl
      refine Or.inr ⟨file, issue, rfl, made, place, ?_, ?_⟩
      · intro none
        rw [none, Discovery.find?_nil] at known
        exact known
      · intro given named
        obtain ⟨n, last⟩ := named
        rw [place]
        have ends : file.endsWith ⟨r.file⟩ = true := (List.find?_eq_some_iff_append.mp known).1
        exact shows_locationOf_iff occurs given ends last
  · intro engine c host s resolved wellFormed file held
    exact (Search.scanned_of_resolve resolved).exists_name wellFormed held

/-- A file that was found, and one that was not. The issue of the first shows in its line,
and the second gives an error. -/
theorem issue_attribution_found :
    let d := Discovery.neighbours ['b']
    let unknown : Record := .make (.compile .missingFieldNumber) .compiler
      "y.proto:3:1: Missing field number." "y.proto" 3 1 none
    Search.neighbours ['b'] = .ok d ∧ (FileTree.dir FileTree.neighbours).WellFormed ∧
      classify "x.proto:3:1: Missing field number." = .ok .missingNumber ∧
      Record.missingNumber.isSuppressed = false ∧
      (∃ issue, Record.missingNumber.issue d = .ok (some issue) ∧ issue.path = "b/x.proto" ∧
        Shows "x.proto:3:1: Missing field number." issue.path) ∧
      classify "y.proto:3:1: Missing field number." = .ok unknown ∧
      unknown.isSuppressed = false ∧ unknown.issue d = .error (.unresolved "y.proto") := by
  intro d unknown
  have resolved : Search.neighbours ['b'] = .ok d := by cbv
  have read : classify "x.proto:3:1: Missing field number." = .ok .missingNumber := by rfl
  have read' : classify "y.proto:3:1: Missing field number." = .ok unknown := by rfl
  obtain ⟨-, -, attributed, named⟩ := issue_attribution read rfl d
  obtain ⟨-, -, attributed', -⟩ := issue_attribution read' rfl d
  refine ⟨resolved, FileTree.wellFormed_neighbours, read, rfl, ?_, read', rfl, ?_⟩
  · rcases attributed with ⟨absent, -⟩ | ⟨file, issue, known, made, place, -, shows⟩
    · exact absurd (absent ⟨"/b/x.proto"⟩ (by decide)) (by decide)
    · have found : d.find? Record.missingNumber.file = some ⟨"/b/x.proto"⟩ := by decide
      cases found.symm.trans known
      have name := named _ _ _ _ resolved FileTree.wellFormed_neighbours ⟨"/b/x.proto"⟩ (by decide)
      exact ⟨issue, made, place, (shows (by decide) name).mpr (by decide)⟩
  · rcases attributed' with ⟨-, refused⟩ | ⟨file, issue, known, -⟩
    · exact refused
    · have absent : d.find? unknown.file = none := by decide
      cases absent.symm.trans known

/-- A line that begins with a colon names no file, and its issue is at the file that was
discovered first, whose name the line does not show. -/
theorem issue_of_colon :
    Search.neighbours ['b'] = .ok (.neighbours ['b']) ∧
    ∃ r issue, classify ": Missing field number." = .ok r ∧ r.isSuppressed = false ∧
      r.file = [] ∧ r.issue (.neighbours ['b']) = .ok (some issue) ∧ issue.path = "b/x.proto" ∧
      ¬ Shows ": Missing field number." issue.path := by
  have read : classify ": Missing field number." = .ok (.make (.compile .missingFieldNumber)
      .compiler ": Missing field number." [] 1 1 none) := by
    rfl
  obtain ⟨issue, made⟩ := exists_issue (d := .neighbours ['b']) (r := .make (.compile
    .missingFieldNumber) .compiler ": Missing field number." [] 1 1 none) rfl (Discovery.find?_nil _)
  have place : issue.path = "b/x.proto" := by
    cases made
    decide
  refine ⟨by cbv, _, issue, read, rfl, rfl, made, place, ?_⟩
  rw [Shows, place]
  intro shown
  exact absurd (contains_iff.mpr shown.2) (by decide)

end Line

end SchemaLint
