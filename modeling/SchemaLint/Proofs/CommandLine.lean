import SchemaLint.CommandLine

/-!
# Operands of a request

No operand of a command line that was read is empty, so a request names a
workspace (`CommandLine.workspace_ne_nil`). Every step of the reading keeps to drafts
whose operands are not empty, and only these make a request.
-/

namespace SchemaLint.CommandLine

/-- A result that is as described, if there is one. -/
def Gives {α : Type} (x : Except UsageError α) (post : α → Prop) : Prop :=
  ∀ a, x = .ok a → post a

namespace Gives

variable {α β : Type} {x : Except UsageError α} {post : α → Prop}

theorem error (e : UsageError) : Gives (.error e) post := nofun

theorem ok {a : α} (holds : post a) : Gives (.ok a) post := by
  rintro b ⟨⟩
  exact holds

theorem map {f : α → β} {post' : β → Prop} (given : Gives x post) (each : ∀ a, post a → post' (f a)) :
    Gives (x.map f) post' := by
  cases x with
  | error e => exact error e
  | ok a => exact ok (each a (given a rfl))

end Gives

/-- A draft without an empty operand. -/
def Draft.Sound (d : Draft) : Prop := ∀ t ∈ d.operands, t ≠ []

/-- An answer that names a workspace if it is a request. -/
def Sound : Invocation → Prop
  | .lint request => request.workspace.text ≠ []
  | .version | .help => True

/-- A step to a draft without an empty operand, or to an answer like this. -/
def Step.Sound : Step → Prop
  | .further d => d.Sound
  | .answer i => CommandLine.Sound i

namespace Draft.Sound

variable {d : Draft}

theorem withOperand (sound : d.Sound) (operand : Text) : Gives (d.withOperand operand) Sound := by
  unfold Draft.withOperand
  split
  · exact .error _
  split
  · exact .error _
  · next given =>
    refine .ok fun t held => ?_
    rcases List.mem_append.mp held with before | added
    · exact sound t before
    · rw [List.mem_singleton.mp added]
      exact given

theorem withCompiler (sound : d.Sound) (program : Text) : Gives (d.withCompiler program) Sound := by
  unfold Draft.withCompiler
  split
  · exact .error _
  · exact .ok sound

theorem withVerbose (sound : d.Sound) : Gives d.withVerbose Sound := by
  unfold Draft.withVerbose
  split
  · exact .error _
  · exact .ok sound

theorem withShort (sound : d.Sound) (letter : Char) : Gives (d.withShort letter) Step.Sound := by
  unfold Draft.withShort
  split
  · exact sound.withVerbose.map fun _ sound => sound
  split
  · exact .ok trivial
  split
  · exact .ok trivial
  · exact .error _

theorem withCluster (sound : d.Sound) (letters : Text) :
    Gives (d.withCluster letters) Step.Sound := by
  induction letters generalizing d with
  | nil => exact .ok sound
  | cons letter rest ih =>
    have step := sound.withShort letter
    rw [Draft.withCluster]
    cases read : d.withShort letter with
    | error e => exact .error e
    | ok next =>
      have sound := step next read
      cases next with
      | further d => exact ih sound
      | answer i => exact .ok sound

theorem withSwitch (sound : d.Sound) (name : Text) : Gives (d.withSwitch name) Step.Sound := by
  unfold Draft.withSwitch
  split
  · exact sound.withVerbose.map fun _ sound => sound
  split
  · exact .ok trivial
  split
  · exact .ok trivial
  · exact .error _

theorem withOperands (sound : d.Sound) (operands : List Text) :
    Gives (operands.foldlM Draft.withOperand d) Sound := by
  induction operands generalizing d with
  | nil => exact .ok sound
  | cons operand rest ih =>
    have step := sound.withOperand operand
    rw [List.foldlM_cons]
    cases read : d.withOperand operand with
    | error e => exact .error e
    | ok next => exact ih (step next read)

theorem finish (sound : d.Sound) : Gives d.finish CommandLine.Sound := by
  unfold Draft.finish
  split
  · next config workspace operands =>
    refine .ok (sound workspace ?_)
    rw [operands]
    exact List.mem_cons_of_mem _ List.mem_cons_self
  · exact .error _

end Draft.Sound

/-- Reading goes on from a sound step to a sound answer. -/
theorem onwards_sound {step : Except UsageError Step} {rest : List Text}
    (sound : Gives step Step.Sound)
    (next : ∀ d : Draft, d.Sound → Gives (readFrom d rest) Sound) :
    Gives
      (match step with
        | .error e => .error e
        | .ok (.answer i) => .ok i
        | .ok (.further d) => readFrom d rest) Sound := by
  cases step with
  | error e => exact .error e
  | ok step =>
    have sound := sound step rfl
    cases step with
    | answer i => exact .ok sound
    | further d => exact next d sound

/-- Reading from a draft without an empty operand gives an answer like this. -/
theorem readFrom_sound {d : Draft} (sound : d.Sound) (arguments : List Text) :
    Gives (readFrom d arguments) Sound := by
  fun_induction readFrom d arguments with
  | case1 d => exact sound.finish
  | case2 d argument rest form last read ih => exact (sound.withOperands rest last read).finish
  | case3 d argument rest form e read ih => exact .error e
  | case4 d argument rest onwards t form ih =>
    exact onwards_sound ((sound.withOperand t).map fun _ sound => sound) ih
  | case5 d argument rest onwards first others form ih =>
    exact onwards_sound (sound.withCluster (first :: others)) ih
  | case6 d argument form ih => exact .error _
  | case7 d argument value rest t next compiler operand form _ ih =>
    exact ih (sound.withCompiler value next compiler)
  | case8 d argument value rest t e compiler operand form ih => exact .error e
  | case9 d argument value rest _ _ form ih => exact .error _
  | case10 d argument rest onwards name form switch ih =>
    exact onwards_sound (sound.withSwitch name) ih
  | case11 d argument rest onwards value form ih =>
    exact onwards_sound ((sound.withCompiler value).map fun _ sound => sound) ih
  | case12 d argument rest name value form other switch ih => exact .error _
  | case13 d argument rest name value form other unknown ih => exact .error _

/-- A request names a workspace. -/
theorem workspace_ne_nil {arguments : List Text} {request : LintRequest}
    (valid : read arguments = .ok (.lint request)) : request.workspace.text ≠ [] := by
  have sound : Draft.Sound {} := fun _ held => nomatch held
  exact readFrom_sound sound arguments _ valid

end SchemaLint.CommandLine
