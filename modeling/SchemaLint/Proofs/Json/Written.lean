import SchemaLint.Json.Reader
import SchemaLint.Proofs.Json.Members

/-!
# What a text has to say to be read

A value whose objects may repeat keys is what a text writes (`Writes`): the tokens of
the text are those of the value, and it does not nest too deep. Such a text is read, as
the value with the members of each object gathered (`Writes.read?_eq`), and no other text
is (`exists_writes_of_read?`).

The first follows the value: on its tokens the machine finishes it on whatever stack it
began it (`Within.builds`). The second follows the machine: the tokens that lead it to a
state are those of values that are cut off in the middle (`LeadsTo`). A step keeps this,
so a run does, and a value that is finished on an empty stack is not cut off.
-/

namespace SchemaLint.Json

/-! ## The tokens of a value -/

mutual

/-- The tokens of a value. -/
def tokens : Json → List Token
  | .null => [.null]
  | .bool b => [.bool b]
  | .number n => [.number n]
  | .string t => [.string t]
  | .array items => .openArray :: itemTokens items ++ [.closeArray]
  | .object members => .openObject :: memberTokens members ++ [.closeObject]

/-- The tokens of items with commas between them. -/
def itemTokens : List Json → List Token
  | [] => []
  | [item] => tokens item
  | item :: next :: rest => tokens item ++ .comma :: itemTokens (next :: rest)

/-- The tokens of members with commas between them. -/
def memberTokens : List (Text × Json) → List Token
  | [] => []
  | [(key, value)] => .string key :: .colon :: tokens value
  | (key, value) :: next :: rest =>
    .string key :: .colon :: tokens value ++ .comma :: memberTokens (next :: rest)

end

/-- At most `depth` arrays and objects inside each other. -/
inductive Within : Nat → Json → Prop where
  | null {depth : Nat} : Within depth .null
  | bool {depth : Nat} (b : Bool) : Within depth (.bool b)
  | number {depth : Nat} (n : JsonNumber) : Within depth (.number n)
  | string {depth : Nat} (t : Text) : Within depth (.string t)
  | array {depth : Nat} {items : List Json} (each : ∀ item ∈ items, Within depth item) :
      Within (depth + 1) (.array items)
  | object {depth : Nat} {members : Members} (each : ∀ member ∈ members, Within depth member.2) :
      Within (depth + 1) (.object members)

/-- A text that writes a value. -/
def Writes (t : Text) (j : Json) : Prop := tokens? t = some j.tokens ∧ j.Within maxDepth

mutual

/-- A value with the members of each object gathered. -/
def gathered : Json → Json
  | .array items => .array (gatheredItems items)
  | .object members => .object (Members.gather (gatheredMembers members))
  | value => value

/-- The items with the members of each object in them gathered. -/
def gatheredItems : List Json → List Json
  | [] => []
  | item :: rest => gathered item :: gatheredItems rest

/-- The members with those of each object in their values gathered. -/
def gatheredMembers : List (Text × Json) → List (Text × Json)
  | [] => []
  | (key, value) :: rest => (key, gathered value) :: gatheredMembers rest

end

theorem gatheredItems_eq_map (items : List Json) : gatheredItems items = items.map gathered := by
  induction items with
  | nil => rfl
  | cons item items ih => rw [gatheredItems, List.map_cons, ih]

theorem gatheredMembers_eq (members : Members) :
    gatheredMembers members = members.mapValues fun _ value => value.gathered := by
  induction members with
  | nil => rfl
  | cons member members ih =>
    rw [gatheredMembers, ih]
    rfl

/-- Of a repeated key the last value is kept, gathered. -/
theorem get?_gather_gatheredMembers (key : Text) (members : Members) :
    Members.get? key (Members.gather (gatheredMembers members)) =
      (members.last? key).map gathered := by
  rw [Members.get?_gather, gatheredMembers_eq, Members.last?_mapValues]

/-! ## A value makes the machine finish it -/

/-- Tokens that make the machine finish a value, on every stack that leaves room for
`depth` more. -/
def Builds (limit depth : Nat) (tokens : List Token) (j : Json) : Prop :=
  ∀ stack : List Frame, stack.length + depth ≤ limit →
    tokens.foldlM (State.step limit) (.value stack) = some (.finished j stack)

/-- No value begins with the end of an array. -/
theorem exists_tokens_eq_cons (j : Json) :
    ∃ token rest, j.tokens = token :: rest ∧ token ≠ .closeArray := by
  cases j with
  | null => exact ⟨.null, [], by rw [tokens], nofun⟩
  | bool b => exact ⟨.bool b, [], by rw [tokens], nofun⟩
  | number n => exact ⟨.number n, [], by rw [tokens], nofun⟩
  | string t => exact ⟨.string t, [], by rw [tokens], nofun⟩
  | array items => exact ⟨.openArray, _, by rw [tokens, List.cons_append], nofun⟩
  | object members => exact ⟨.openObject, _, by rw [tokens, List.cons_append], nofun⟩

/-- The first item of an array is a value like the others. -/
theorem foldlM_firstItem (limit : Nat) (stack : List Frame) (item : Json) (items : List Json)
    (rest : List Token) :
    (itemTokens (item :: items) ++ rest).foldlM (State.step limit) (.firstItem stack) =
      (itemTokens (item :: items) ++ rest).foldlM (State.step limit)
        (.value (.array [] :: stack)) := by
  obtain ⟨token, others, tokens, value⟩ := exists_tokens_eq_cons item
  obtain ⟨others, written⟩ : ∃ others, itemTokens (item :: items) ++ rest = token :: others := by
    cases items with
    | nil => exact ⟨_, by rw [itemTokens, tokens, List.cons_append]⟩
    | cons next items =>
      exact ⟨_, by rw [itemTokens, tokens, List.cons_append, List.cons_append]⟩
  rw [written, List.foldlM_cons, List.foldlM_cons]
  cases token with
  | closeArray => exact (value rfl).elim
  | _ => rfl

/-- So is the first key of an object. -/
theorem foldlM_firstKey (limit : Nat) (stack : List Frame) (key : Text) (value : Json)
    (members : Members) (rest : List Token) :
    (memberTokens ((key, value) :: members) ++ rest).foldlM (State.step limit) (.firstKey stack) =
      (memberTokens ((key, value) :: members) ++ rest).foldlM (State.step limit)
        (.furtherKey [] stack) := by
  cases members with
  | nil =>
    rw [memberTokens]
    rfl
  | cons next members =>
    rw [memberTokens]
    rfl

section

variable {limit depth : Nat} {stack : List Frame}

theorem foldlM_itemTokens {item : Json} {items : List Json}
    (each : ∀ i ∈ item :: items, Builds limit depth i.tokens i.gathered) (done : List Json)
    (room : stack.length + 1 + depth ≤ limit) :
    (itemTokens (item :: items) ++ [Token.closeArray]).foldlM (State.step limit)
        (.value (.array done :: stack)) =
      some (.finished (.array (done.reverse ++ gatheredItems (item :: items))) stack) := by
  have first := each item List.mem_cons_self (.array done :: stack) room
  induction items generalizing item done with
  | nil =>
    rw [itemTokens, List.foldlM_append, first]
    show some (State.finished (.array (item.gathered :: done).reverse) stack) = _
    rw [List.reverse_cons]
    rfl
  | cons next items ih =>
    obtain ⟨-, others⟩ := List.forall_mem_cons.mp each
    have further := ih others (item.gathered :: done)
      (others next List.mem_cons_self (.array (item.gathered :: done) :: stack) room)
    rw [List.reverse_cons, List.append_assoc] at further
    rw [itemTokens, List.append_assoc, List.foldlM_append, first]
    exact further

/-- The tokens of one member. -/
theorem foldlM_member {value : Json} (builds : Builds limit depth value.tokens value.gathered)
    (done : Members) (key : Text) (room : stack.length + 1 + depth ≤ limit) :
    (Token.string key :: .colon :: value.tokens).foldlM (State.step limit)
        (.furtherKey done stack) =
      some (.finished value.gathered (.member done key :: stack)) :=
  builds (.member done key :: stack) room

theorem foldlM_memberTokens {key : Text} {value : Json} {members : Members}
    (each : ∀ m ∈ (key, value) :: members, Builds limit depth m.2.tokens m.2.gathered)
    (done : Members) (room : stack.length + 1 + depth ≤ limit) :
    (memberTokens ((key, value) :: members) ++ [Token.closeObject]).foldlM (State.step limit)
        (.furtherKey done stack) =
      some (.finished (.object (done.setAll (gatheredMembers ((key, value) :: members)))) stack)
        := by
  have first := foldlM_member (each _ List.mem_cons_self) done key room
  induction members generalizing key value done with
  | nil =>
    rw [memberTokens, List.foldlM_append, first]
    rfl
  | cons next members ih =>
    obtain ⟨nextKey, nextValue⟩ := next
    obtain ⟨-, others⟩ := List.forall_mem_cons.mp each
    have further := ih others (done.set key value.gathered)
      (foldlM_member (others _ List.mem_cons_self) _ nextKey room)
    rw [memberTokens, List.append_assoc, List.foldlM_append, first]
    exact further

end

/-- The tokens of a value make the machine finish it, gathered. -/
theorem Within.builds {depth : Nat} {j : Json} (within : j.Within depth) (limit : Nat) :
    Builds limit depth j.tokens j.gathered := by
  induction within with
  | null => exact fun stack _ => rfl
  | bool b => exact fun stack _ => rfl
  | number n => exact fun stack _ => rfl
  | string t => exact fun stack _ => rfl
  | @array depth items _ ih =>
    intro stack room
    have opens : State.step limit (.value stack) .openArray = some (.firstItem stack) :=
      if_pos (by omega)
    rw [tokens, List.cons_append, List.foldlM_cons, opens]
    cases items with
    | nil => rfl
    | cons item items =>
      have room : stack.length + 1 + depth ≤ limit := by omega
      exact (foldlM_firstItem ..).trans (foldlM_itemTokens ih [] room)
  | @object depth members _ ih =>
    intro stack room
    have opens : State.step limit (.value stack) .openObject = some (.firstKey stack) :=
      if_pos (by omega)
    rw [tokens, List.cons_append, List.foldlM_cons, opens]
    cases members with
    | nil => rfl
    | cons member members =>
      have room : stack.length + 1 + depth ≤ limit := by omega
      exact (foldlM_firstKey ..).trans (foldlM_memberTokens ih [] room)

/-! ## What leads the machine to a state -/

/-- The tokens of items that others follow. -/
def itemsBefore (items : List Json) : List Token := items.flatMap fun j => j.tokens ++ [.comma]

/-- The tokens of members that others follow. -/
def membersBefore (members : Members) : List Token :=
  members.flatMap fun m => .string m.1 :: .colon :: m.2.tokens ++ [.comma]

theorem itemTokens_cons (item : Json) {items : List Json} (more : items ≠ []) :
    itemTokens (item :: items) = item.tokens ++ .comma :: itemTokens items := by
  cases items with
  | nil => exact (more rfl).elim
  | cons next items => rw [itemTokens]

theorem memberTokens_cons (key : Text) (value : Json) {members : Members} (more : members ≠ []) :
    memberTokens ((key, value) :: members) =
      .string key :: .colon :: value.tokens ++ .comma :: memberTokens members := by
  cases members with
  | nil => exact (more rfl).elim
  | cons next members => rw [memberTokens]

theorem itemTokens_concat (items : List Json) (last : Json) :
    itemTokens (items ++ [last]) = itemsBefore items ++ last.tokens := by
  induction items with
  | nil =>
    rw [List.nil_append, itemTokens]
    rfl
  | cons item items ih =>
    rw [List.cons_append, itemTokens_cons item (List.concat_ne_nil last items), ih]
    simp [itemsBefore]

theorem memberTokens_concat (members : Members) (key : Text) (value : Json) :
    memberTokens (members ++ [(key, value)]) =
      membersBefore members ++ .string key :: .colon :: value.tokens := by
  induction members with
  | nil =>
    rw [List.nil_append, memberTokens]
    rfl
  | cons member members ih =>
    obtain ⟨k, v⟩ := member
    rw [List.cons_append, memberTokens_cons k v (List.concat_ne_nil _ members), ih]
    simp [membersBefore]

section

variable {limit : Nat}

-- The values on a stack are in no relation to the tokens here, for what a machine has
-- built when it finishes is already known from `Within.builds`.

/-- The tokens that open the arrays and objects on a stack, up to a place where a value
is to come. What was finished on the way left room for the depth it has. -/
inductive Opens (limit : Nat) : List Frame → List Token → Prop where
  | nil : Opens limit [] []
  | array {stack : List Frame} {ts : List Token} (opens : Opens limit stack ts)
      (room : stack.length < limit) (before : List Json)
      (each : ∀ item ∈ before, item.Within (limit - (stack.length + 1))) (done : List Json) :
      Opens limit (.array done :: stack) (ts ++ .openArray :: itemsBefore before)
  | member {stack : List Frame} {ts : List Token} (opens : Opens limit stack ts)
      (room : stack.length < limit) (before : Members)
      (each : ∀ m ∈ before, m.2.Within (limit - (stack.length + 1))) (done : Members)
      (key : Text) :
      Opens limit (.member done key :: stack)
        (ts ++ .openObject :: membersBefore before ++ [.string key, .colon])

/-- The tokens after which the machine is in a state. -/
inductive LeadsTo (limit : Nat) : State → List Token → Prop where
  | value {stack : List Frame} {ts : List Token} (opens : Opens limit stack ts) :
      LeadsTo limit (.value stack) ts
  | firstItem {stack : List Frame} {ts : List Token} (opens : Opens limit stack ts)
      (room : stack.length < limit) : LeadsTo limit (.firstItem stack) (ts ++ [.openArray])
  | firstKey {stack : List Frame} {ts : List Token} (opens : Opens limit stack ts)
      (room : stack.length < limit) : LeadsTo limit (.firstKey stack) (ts ++ [.openObject])
  | furtherKey {stack : List Frame} {ts : List Token} (opens : Opens limit stack ts)
      (room : stack.length < limit) (before : Members)
      (each : ∀ m ∈ before, m.2.Within (limit - (stack.length + 1))) (done : Members) :
      LeadsTo limit (.furtherKey done stack) (ts ++ .openObject :: membersBefore before)
  | colon {stack : List Frame} {ts : List Token} (opens : Opens limit stack ts)
      (room : stack.length < limit) (before : Members)
      (each : ∀ m ∈ before, m.2.Within (limit - (stack.length + 1))) (done : Members)
      (key : Text) :
      LeadsTo limit (.colon done key stack)
        (ts ++ .openObject :: membersBefore before ++ [.string key])
  | finished {stack : List Frame} {ts : List Token} (opens : Opens limit stack ts) {j : Json}
      (within : j.Within (limit - stack.length)) (value : Json) :
      LeadsTo limit (.finished value stack) (ts ++ j.tokens)

variable {stack : List Frame} {ts us : List Token} {token : Token} {state next : State}

/-- Below the limit there is room for one more level. -/
theorem Within.array_of_room {n : Nat} (room : n < limit) {items : List Json}
    (each : ∀ item ∈ items, item.Within (limit - (n + 1))) :
    (Json.array items).Within (limit - n) := by
  rw [show limit - n = limit - (n + 1) + 1 by omega]
  exact .array each

theorem Within.object_of_room {n : Nat} (room : n < limit) {members : Members}
    (each : ∀ m ∈ members, m.2.Within (limit - (n + 1))) :
    (Json.object members).Within (limit - n) := by
  rw [show limit - n = limit - (n + 1) + 1 by omega]
  exact .object each

theorem LeadsTo.of_eq (leads : LeadsTo limit state ts) (same : ts = us) : LeadsTo limit state us :=
  same ▸ leads

/-- A value starts. -/
theorem LeadsTo.start (opens : Opens limit stack ts)
    (step : State.start limit stack token = some next) : LeadsTo limit next (ts ++ [token]) := by
  cases token with
  | openArray =>
    obtain ⟨room, taken⟩ := Option.ite_none_right_eq_some.mp step
    cases taken
    exact .firstItem opens room
  | openObject =>
    obtain ⟨room, taken⟩ := Option.ite_none_right_eq_some.mp step
    cases taken
    exact .firstKey opens room
  | null =>
    cases step
    exact (LeadsTo.finished opens .null _).of_eq (by rw [tokens])
  | bool b =>
    cases step
    exact (LeadsTo.finished opens (.bool b) _).of_eq (by rw [tokens])
  | number n =>
    cases step
    exact (LeadsTo.finished opens (.number n) _).of_eq (by rw [tokens])
  | string t =>
    cases step
    exact (LeadsTo.finished opens (.string t) _).of_eq (by rw [tokens])
  | closeArray | closeObject | comma | colon => cases step

/-- A value is finished: it is cut off no longer, and belongs to those before the next
or to the array or object that ends. -/
theorem LeadsTo.close {value : Json} (opens : Opens limit stack ts) {j : Json}
    (within : j.Within (limit - stack.length))
    (step : State.close value stack token = some next) :
    LeadsTo limit next (ts ++ j.tokens ++ [token]) := by
  cases opens with
  | nil => cases step
  | @array stack ts opens room before each done =>
    have all : ∀ item ∈ before ++ [j], item.Within (limit - (stack.length + 1)) :=
      List.forall_mem_append.mpr ⟨each, List.forall_mem_singleton.mpr within⟩
    cases token with
    | comma =>
      cases step
      refine (LeadsTo.value (.array opens room (before ++ [j]) all _)).of_eq ?_
      simp [itemsBefore]
    | closeArray =>
      cases step
      refine (LeadsTo.finished opens (.array_of_room room all) _).of_eq ?_
      rw [tokens, itemTokens_concat]
      simp
    | _ => cases step
  | @member stack ts opens room before each done key =>
    have all : ∀ m ∈ before ++ [(key, j)], m.2.Within (limit - (stack.length + 1)) :=
      List.forall_mem_append.mpr ⟨each, List.forall_mem_singleton.mpr within⟩
    cases token with
    | comma =>
      cases step
      refine (LeadsTo.furtherKey opens room (before ++ [(key, j)]) all _).of_eq ?_
      simp [membersBefore]
    | closeObject =>
      cases step
      refine (LeadsTo.finished opens (.object_of_room room all) _).of_eq ?_
      rw [tokens, memberTokens_concat]
      simp
    | _ => cases step

/-- A step puts its token after those that led to the state. -/
theorem LeadsTo.step (leads : LeadsTo limit state ts)
    (step : State.step limit state token = some next) : LeadsTo limit next (ts ++ [token]) := by
  cases leads with
  | value opens => exact .start opens step
  | @firstItem stack ts opens room =>
    -- Any other token than the end starts the first item, in an array without items.
    have first : Opens limit (.array [] :: stack) (ts ++ [.openArray]) :=
      .array opens room [] nofun []
    cases token with
    | closeArray =>
      cases step
      have whole : (Json.array []).Within (limit - stack.length) := .array_of_room room nofun
      refine (LeadsTo.finished opens whole _).of_eq ?_
      rw [tokens, itemTokens]
      simp
    | _ => exact .start first step
  | @firstKey stack ts opens room =>
    cases token with
    | closeObject =>
      cases step
      have whole : (Json.object []).Within (limit - stack.length) := .object_of_room room nofun
      refine (LeadsTo.finished opens whole _).of_eq ?_
      rw [tokens, memberTokens]
      simp
    | string key =>
      cases step
      exact .colon opens room [] nofun [] key
    | _ => cases step
  | furtherKey opens room before each done =>
    cases token with
    | string key =>
      cases step
      exact .colon opens room before each done key
    | _ => cases step
  | colon opens room before each done key =>
    cases token with
    | colon =>
      cases step
      refine (LeadsTo.value (.member opens room before each done key)).of_eq ?_
      simp
    | _ => cases step
  | finished opens within value => exact .close opens within step

/-- What a step keeps, a run keeps. -/
theorem LeadsTo.run (leads : LeadsTo limit state ts)
    (run : us.foldlM (State.step limit) state = some next) : LeadsTo limit next (ts ++ us) := by
  induction us generalizing state ts with
  | nil =>
    cases run
    exact (List.append_nil ts).symm ▸ leads
  | cons token us ih =>
    rw [List.foldlM_cons] at run
    obtain ⟨between, first, rest⟩ := Option.bind_eq_some_iff.mp run
    have further := ih (leads.step first) rest
    rw [List.append_assoc] at further
    exact further

end

/-! ## Reading -/

/-- A run that ends with a finished value has read the tokens of a value. -/
theorem exists_of_ofTokens? {limit : Nat} {ts : List Token} {value : Json}
    (read : ofTokens? limit ts = some value) : ∃ j : Json, ts = j.tokens ∧ j.Within limit := by
  unfold ofTokens? at read
  split at read
  · next run =>
    have leads := LeadsTo.run (.value .nil) run
    rw [List.nil_append] at leads
    cases leads with
    | finished opens within =>
      cases opens
      exact ⟨_, rfl, within⟩
  · cases read

theorem Within.ofTokens?_tokens {limit : Nat} {j : Json} (within : j.Within limit) :
    ofTokens? limit j.tokens = some j.gathered := by
  have built := within.builds limit [] (Nat.le_of_eq (Nat.zero_add _))
  rw [ofTokens?, built]

/-- What a text writes is read, with the members of each object gathered. -/
theorem Writes.read?_eq {t : Text} {j : Json} (writes : Writes t j) :
    read? t = some j.gathered := by
  rw [read?, writes.1, Option.bind_some, writes.2.ofTokens?_tokens]

/-- Only texts that write a value are read. -/
theorem exists_writes_of_read? {t : Text} {value : Json} (read : read? t = some value) :
    ∃ j, Writes t j := by
  obtain ⟨ts, split, built⟩ := Option.bind_eq_some_iff.mp read
  obtain ⟨j, rfl, within⟩ := exists_of_ofTokens? built
  exact ⟨j, split, within⟩

end SchemaLint.Json
