import Taramandal.Studio.PathData

/-! # The grammar of path data

What the loop over the tokens accepts is a sequence of commands, a move first, each with one or
more groups of its numbers, or none for a closing one. The loop draws them in order, so a path
may be rewritten with a letter before every group and absolute numbers in all of them. -/
set_option linter.unusedSectionVars false

namespace Taramandal.Studio.PathGrammar

open Lib.Check Studio.Contours Studio.PathData

variable {K : Type} [Field K]

/-! ## Both loops end -/

lemma length_span (p : Char → Bool) (cs : List Char) :
    (cs.span p).1.length + (cs.span p).2.length = cs.length := by
  rw [List.span_eq_takeWhile_dropWhile, ← List.length_append, List.takeWhile_append_dropWhile]

lemma length_signed_le (cs : List Char) : (Core.Text.signed cs).2.length ≤ cs.length := by
  unfold Core.Text.signed
  split
  · exact Nat.le_succ _
  · exact Nat.le_succ _
  · exact le_rfl

variable {cs : List Char} {fuel : ℕ} {cmd' : Char} {s : Step K}

lemma length_fractionPart {ds rest : List Char} (h : fractionPart cs = some (ds, rest)) :
    rest.length < cs.length := by
  cases cs with
  | nil => cases h
  | cons c cs =>
    have hspan := length_span Char.isDigit cs
    unfold fractionPart at h
    dsimp only at h
    split_ifs at h with hdot hnone
    obtain ⟨rfl, rfl⟩ := Prod.mk.inj (Option.some.inj h)
    rw [List.length_cons]
    omega

lemma length_exponentPart {rest : List Char} {e : ℤ} (h : exponentPart cs = some (e, rest)) :
    rest.length < cs.length := by
  cases cs with
  | nil => cases h
  | cons c cs =>
    have hspan := length_span Char.isDigit (Core.Text.signed cs).2
    have hsigned := length_signed_le cs
    unfold exponentPart at h
    dsimp only at h
    by_cases he : c = 'e' ∨ c = 'E'
    · rw [if_pos he] at h
      by_cases hnone : ((Core.Text.signed cs).2.span Char.isDigit).1 = []
      · rw [if_pos hnone] at h
        cases h
      · rw [if_neg hnone] at h
        obtain ⟨-, rfl⟩ := Prod.mk.inj (Option.some.inj h)
        rw [List.length_cons]
        omega
    · rw [if_neg he] at h
      cases h

lemma length_mantissa {whole frac rest : List Char}
    (h : mantissa cs = some ((whole, frac), rest)) : rest.length < cs.length := by
  have hspan := length_span Char.isDigit cs
  unfold mantissa at h
  dsimp only at h
  split at h
  · next frac' rest' hfraction =>
    have hlt := length_fractionPart hfraction
    obtain ⟨-, rfl⟩ := Prod.mk.inj (Option.some.inj h)
    omega
  · next hfraction =>
    split_ifs at h with hwhole
    have hpos := List.length_pos_iff.mpr hwhole
    obtain ⟨-, rfl⟩ := Prod.mk.inj (Option.some.inj h)
    omega

lemma length_number? {rest : List Char} {v : K} (h : number? cs = some (v, rest)) :
    rest.length < cs.length := by
  have hsigned := length_signed_le cs
  unfold number? at h
  dsimp only at h
  split at h
  · cases h
  · next whole frac body hmantissa =>
    have hlt := length_mantissa hmantissa
    obtain ⟨-, rfl⟩ := Prod.mk.inj (Option.some.inj h)
    cases hexponent : exponentPart body with
    | none => exact hlt.trans_le hsigned
    | some parts =>
      have hlt' := length_exponentPart hexponent
      rw [Option.getD_some]
      omega

lemma isSome_tokenize (h : cs.length ≤ fuel) :
    (tokenize fuel cs : Option (Except String (List (Token K)))).isSome := by
  induction fuel generalizing cs with
  | zero =>
    obtain rfl := List.length_eq_zero_iff.mp (Nat.le_zero.mp h)
    rfl
  | succ fuel ih =>
    cases cs with
    | nil => rfl
    | cons c cs =>
      have hrest : cs.length ≤ fuel := Nat.le_of_succ_le_succ h
      unfold tokenize
      split_ifs
      · exact ih hrest
      · rw [Option.isSome_map]
        exact ih hrest
      · split
        · next v rest hnumber =>
          have hlt := length_number? hnumber
          rw [Option.isSome_map]
          exact ih (by omega)
        · rfl

lemma readNums_eq_ok {cmd : Char} {contexts : List String} {tokens rest : List (Token K)}
    {args : List K} (h : readNums cmd contexts tokens = .ok (args, rest)) :
    args.length = contexts.length ∧ tokens = args.map .num ++ rest := by
  induction contexts generalizing tokens args with
  | nil =>
    obtain ⟨rfl, rfl⟩ := Prod.mk.inj (Except.ok.inj h)
    exact ⟨rfl, rfl⟩
  | cons context contexts ih =>
    cases tokens with
    | nil => cases h
    | cons token tokens =>
      cases token with
      | cmd c => cases h
      | num v =>
        obtain ⟨⟨args', rest'⟩, hread, heq⟩ := map_eq_ok.mp h
        obtain ⟨rfl, rfl⟩ := Prod.mk.inj heq
        obtain ⟨hlength, rfl⟩ := ih hread
        exact ⟨congrArg Nat.succ hlength, rfl⟩

lemma readNums_append {cmd : Char} {contexts : List String} {args : List K}
    (h : args.length = contexts.length) (rest : List (Token K)) :
    readNums cmd contexts (args.map .num ++ rest) = .ok (args, rest) := by
  induction contexts generalizing args with
  | nil =>
    obtain rfl := List.length_eq_zero_iff.mp h
    rfl
  | cons context contexts ih =>
    cases args with
    | nil => cases h
    | cons v args => exact map_eq_ok.mpr ⟨_, ih (Nat.succ.inj h), rfl⟩

/-! ## One turn of the loop -/

def nextOf : PathCommand → PathCommand
  | .moveTo => .lineTo
  | command => command

lemma commandOf_following {cmd : Char} {command : PathCommand} (h : commandOf cmd = some command) :
    commandOf (following cmd command) = some (nextOf command) ∧
      isRel (following cmd command) = isRel cmd := by
  cases command with
  | moveTo =>
    cases hrel : isRel cmd with
    | false =>
      unfold following
      rw [if_pos rfl, hrel]
      exact ⟨rfl, rfl⟩
    | true =>
      unfold following
      rw [if_pos rfl, hrel]
      exact ⟨rfl, rfl⟩
  | _ => exact ⟨h, rfl⟩

lemma length_contexts_nextOf (command : PathCommand) :
    (nextOf command).contexts.length = command.contexts.length := by
  cases command <;> rfl

lemma nextOf_ne_moveTo (command : PathCommand) : nextOf command ≠ .moveTo := by
  cases command <;> exact PathCommand.noConfusion

lemma nextOf_ne_close {command : PathCommand} (h : command ≠ .close) : nextOf command ≠ .close := by
  cases command with
  | moveTo => exact PathCommand.noConfusion
  | _ => exact h

lemma length_contexts_pos {command : PathCommand} (h : command ≠ .close) :
    0 < command.contexts.length := by
  cases command with
  | close => exact absurd rfl h
  | _ => decide

/-- A turn, by the letter that it goes by and the group that it takes. -/
structure Turn (cmd : Char) (tokens : List (Token K)) (s : Step K) (cmd' : Char)
    (rest : List (Token K)) (c : Char) : Prop where
  supported : commandOf c = some s.command
  relative : s.relative = isRel c
  following : cmd' = PathData.following c s.command
  args : s.args.length = s.command.contexts.length
  tokens : tokens = .cmd c :: (s.args.map .num ++ rest) ∨
    c = cmd ∧ s.command ≠ .close ∧ tokens = s.args.map .num ++ rest

lemma turn_of_readStep {cmd : Char} {tokens rest : List (Token K)}
    (h : readStep cmd tokens = .ok ((s, cmd'), rest)) : ∃ c, Turn cmd tokens s cmd' rest c := by
  have hstep : ∀ {c : Char} {named : Bool} {tokens : List (Token K)},
      stepOf c named tokens = .ok ((s, cmd'), rest) →
      (tokens = s.args.map .num ++ rest → named = false → s.command ≠ .close) ∧
        tokens = s.args.map .num ++ rest ∧ commandOf c = some s.command ∧
        s.relative = isRel c ∧ cmd' = PathData.following c s.command ∧
        s.args.length = s.command.contexts.length := by
    intro c named tokens h
    unfold stepOf at h
    split at h
    · cases h
    · next command hcommand =>
      split_ifs at h with hclose
      obtain ⟨⟨args, rest'⟩, hread, heq⟩ := map_eq_ok.mp h
      obtain ⟨hs, rfl⟩ := Prod.mk.inj heq
      obtain ⟨rfl, rfl⟩ := Prod.mk.inj hs
      obtain ⟨hlength, htokens⟩ := readNums_eq_ok hread
      exact ⟨fun _ hnamed hc => hclose ⟨hc, hnamed⟩, htokens, hcommand, rfl, rfl, hlength⟩
  unfold readStep at h
  split at h
  · next c tokens =>
    obtain ⟨-, htokens, hcommand, hrel, hnext, hlength⟩ := hstep h
    exact ⟨c, hcommand, hrel, hnext, hlength, .inl (congrArg _ htokens)⟩
  · obtain ⟨hbare, htokens, hcommand, hrel, hnext, hlength⟩ := hstep h
    exact ⟨cmd, hcommand, hrel, hnext, hlength, .inr ⟨rfl, hbare htokens rfl, htokens⟩⟩

lemma Turn.length_lt {cmd c : Char} {tokens rest : List (Token K)}
    (h : Turn cmd tokens s cmd' rest c) : rest.length < tokens.length := by
  rcases h.tokens with rfl | ⟨-, hclose, rfl⟩
  · rw [List.length_cons, List.length_append]
    omega
  · have hpos := length_contexts_pos hclose
    rw [List.length_append, List.length_map, h.args]
    omega

lemma isSome_parseLoop {cmd : Char} {d : Drawing K} {tokens : List (Token K)}
    (h : tokens.length ≤ fuel) : (parseLoop fuel cmd d tokens).isSome := by
  induction fuel generalizing cmd d tokens with
  | zero =>
    obtain rfl := List.length_eq_zero_iff.mp (Nat.le_zero.mp h)
    rfl
  | succ fuel ih =>
    cases tokens with
    | nil => rfl
    | cons t tokens =>
      unfold parseLoop
      split
      · rfl
      · next s cmd' rest hread =>
        obtain ⟨c, hturn⟩ := turn_of_readStep hread
        have hlt := hturn.length_lt
        exact ih (by omega)

/-! ## The grammar -/

/-- A letter and the groups of numbers behind it. -/
structure Command (K : Type) where
  letter : Char
  groups : List (List K)

def Command.tokens (c : Command K) : List (Token K) := .cmd c.letter :: c.groups.flatten.map .num

/-- A supported letter; none for a closing one, or at least one complete group. -/
def Command.WellFormed (c : Command K) : Prop := ∃ command, commandOf c.letter = some command ∧
  (command = .close → c.groups = []) ∧
  (command ≠ .close → c.groups ≠ [] ∧ ∀ g ∈ c.groups, g.length = command.contexts.length)

/-- What bare numbers behind a command may be: complete groups of it. -/
def Repeats (cmd : Char) (groups : List (List K)) : Prop := groups ≠ [] →
  ∃ command, commandOf cmd = some command ∧ command ≠ .close ∧ command ≠ .moveTo ∧
    ∀ g ∈ groups, g.length = command.contexts.length

lemma Turn.groups {cmd c : Char} {tokens rest : List (Token K)}
    (h : Turn cmd tokens s cmd' rest c) {groups : List (List K)} (hgroups : Repeats cmd' groups) :
    (s.command = .close → groups = []) ∧ ∀ g ∈ groups, g.length = s.command.contexts.length := by
  obtain ⟨hnext, -⟩ := commandOf_following h.supported
  rw [← h.following] at hnext
  constructor
  · intro hclose
    by_contra hne
    obtain ⟨command, hcommand, hnot, -⟩ := hgroups hne
    rw [hnext, hclose] at hcommand
    exact hnot (Option.some.inj hcommand).symm
  · intro g hg
    obtain ⟨command, hcommand, -, -, hlength⟩ := hgroups (List.ne_nil_of_mem hg)
    obtain rfl := Option.some.inj (hnext.symm.trans hcommand)
    rw [hlength g hg, length_contexts_nextOf]

lemma commands_of_parseLoop {cmd : Char} {d d' : Drawing K} {tokens : List (Token K)}
    (hcmd : commandOf cmd ≠ some .moveTo) (h : parseLoop fuel cmd d tokens = some (.ok d')) :
    ∃ (groups : List (List K)) (cmds : List (Command K)),
      tokens = groups.flatten.map .num ++ cmds.flatMap Command.tokens ∧
      Repeats cmd groups ∧ ∀ c ∈ cmds, c.WellFormed := by
  induction fuel generalizing cmd d tokens with
  | zero =>
    cases tokens with
    | nil => exact ⟨[], [], rfl, fun h => absurd rfl h, fun c hc => absurd hc List.not_mem_nil⟩
    | cons t tokens => cases h
  | succ fuel ih =>
    cases tokens with
    | nil => exact ⟨[], [], rfl, fun h => absurd rfl h, fun c hc => absurd hc List.not_mem_nil⟩
    | cons t tokens =>
      unfold parseLoop at h
      split at h
      · cases h
      · next s cmd' rest hread =>
        obtain ⟨c, hturn⟩ := turn_of_readStep hread
        obtain ⟨hnext, -⟩ := commandOf_following hturn.supported
        rw [← hturn.following] at hnext
        have hnot : commandOf cmd' ≠ some .moveTo := by
          rw [hnext]
          exact fun h => nextOf_ne_moveTo _ (Option.some.inj h)
        obtain ⟨groups, cmds, rfl, hrepeats, hwell⟩ := ih hnot h
        obtain ⟨hclose, hlength⟩ := hturn.groups hrepeats
        rcases hturn.tokens with hnamed | ⟨rfl, hopen, hbare⟩
        · by_cases hc : s.command = .close
          · have hargs : s.args = [] := List.length_eq_zero_iff.mp (by rw [hturn.args, hc]; rfl)
            refine ⟨[], ⟨c, []⟩ :: cmds, ?_, fun h => absurd rfl h, ?_⟩
            · rw [hnamed, hargs, hclose hc]
              rfl
            · refine List.forall_mem_cons.mpr ⟨⟨s.command, hturn.supported, fun _ => rfl, ?_⟩, hwell⟩
              exact fun hopen => absurd hc hopen
          · refine ⟨[], ⟨c, s.args :: groups⟩ :: cmds, ?_, fun h => absurd rfl h, ?_⟩
            · rw [hnamed, List.flatMap_cons]
              simp [Command.tokens]
            · refine List.forall_mem_cons.mpr ⟨⟨s.command, hturn.supported, ?_, fun _ => ?_⟩, hwell⟩
              · exact fun h => absurd h hc
              · exact ⟨List.cons_ne_nil _ _, List.forall_mem_cons.mpr ⟨hturn.args, hlength⟩⟩
        · refine ⟨s.args :: groups, cmds, ?_, fun _ => ?_, hwell⟩
          · rw [hbare]
            simp
          · refine ⟨s.command, hturn.supported, hopen, fun hmove => hcmd ?_,
              List.forall_mem_cons.mpr ⟨hturn.args, hlength⟩⟩
            rw [hturn.supported, hmove]

/-! ## What the commands draw -/

def bareSteps (cmd : Char) (groups : List (List K)) : List (Step K) :=
  match commandOf cmd with
  | some command => groups.map (⟨command, isRel cmd, ·⟩)
  | none => []

/-- A command, step by step: the groups behind a move are lines. -/
def Command.steps (c : Command K) : List (Step K) :=
  match commandOf c.letter, c.groups with
  | some command, [] => [⟨command, isRel c.letter, []⟩]
  | some command, g :: groups =>
    ⟨command, isRel c.letter, g⟩ :: groups.map (⟨nextOf command, isRel c.letter, ·⟩)
  | none, _ => []

section Run

variable {cmd c : Char} {command : PathCommand} {args : List K} {rest : List (Token K)}

lemma stepOf_append {named : Bool} (hcommand : commandOf c = some command)
    (hnamed : command = .close → named = true) (hargs : args.length = command.contexts.length) :
    stepOf c named (args.map .num ++ rest) =
      .ok ((⟨command, isRel c, args⟩, following c command), rest) := by
  have hbare : ¬ (command = .close ∧ named = false) := by
    rintro ⟨hclose, hfalse⟩
    exact Bool.noConfusion (hfalse.symm.trans (hnamed hclose))
  unfold stepOf
  rw [hcommand]
  dsimp only
  rw [if_neg hbare, readNums_append hargs]
  rfl

lemma readStep_named (hcommand : commandOf c = some command)
    (hargs : args.length = command.contexts.length) :
    readStep cmd (.cmd c :: (args.map .num ++ rest)) =
      .ok ((⟨command, isRel c, args⟩, following c command), rest) :=
  stepOf_append hcommand (fun _ => rfl) hargs

lemma readStep_bare (hcommand : commandOf cmd = some command) (hopen : command ≠ .close)
    (hargs : args.length = command.contexts.length) :
    readStep cmd (args.map .num ++ rest) =
      .ok ((⟨command, isRel cmd, args⟩, following cmd command), rest) := by
  cases args with
  | nil => exact absurd hargs (length_contexts_pos hopen).ne
  | cons v args => exact stepOf_append hcommand (fun hclose => absurd hclose hopen) hargs

lemma parseLoop_turn {cmd' : Char} {s : Step K} {tokens : List (Token K)} (fuel : ℕ)
    (d : Drawing K) (h : readStep cmd tokens = .ok ((s, cmd'), rest)) :
    parseLoop (fuel + 1) cmd d tokens = parseLoop fuel cmd' (d.draw s) rest := by
  cases tokens with
  | nil =>
    obtain ⟨c, hturn⟩ := turn_of_readStep h
    exact absurd hturn.length_lt (Nat.not_lt_zero _)
  | cons t tokens =>
    rw [parseLoop, h]

lemma parseLoop_bare {groups : List (List K)} (hgroups : Repeats cmd groups)
    {run : Drawing K → Drawing K} (hrun : ∀ fuel d, rest.length ≤ fuel →
      parseLoop fuel cmd d rest = some (.ok (run d))) :
    ∀ fuel d, (groups.flatten.map Token.num ++ rest).length ≤ fuel →
      parseLoop fuel cmd d (groups.flatten.map .num ++ rest) =
        some (.ok (run ((bareSteps cmd groups).foldl Drawing.draw d))) := by
  induction groups with
  | nil =>
    have hnone : bareSteps cmd ([] : List (List K)) = [] := by
      unfold bareSteps
      split <;> rfl
    rw [hnone]
    exact hrun
  | cons g groups ih =>
    intro fuel d hfuel
    obtain ⟨command, hcommand, hopen, hmove, hlength⟩ := hgroups (List.cons_ne_nil _ _)
    obtain ⟨hg, hrest⟩ := List.forall_mem_cons.mp hlength
    have hsame : following cmd command = cmd := if_neg hmove
    have hpos := length_contexts_pos hopen
    have hsteps : bareSteps cmd (g :: groups) =
        ⟨command, isRel cmd, g⟩ :: bareSteps cmd groups := by
      unfold bareSteps
      rw [hcommand]
      rfl
    rw [List.flatten_cons, List.map_append, List.append_assoc] at hfuel ⊢
    rw [List.length_append, List.length_map] at hfuel
    obtain ⟨fuel, rfl⟩ : ∃ n, fuel = n + 1 := ⟨fuel - 1, by omega⟩
    rw [hsteps, List.foldl_cons, parseLoop_turn fuel d (readStep_bare hcommand hopen hg), hsame]
    exact ih (fun _ => ⟨command, hcommand, hopen, hmove, hrest⟩) fuel _ (by omega)

lemma parseLoop_commands {cmds : List (Command K)} (hwell : ∀ c ∈ cmds, c.WellFormed)
    (cmd : Char) : ∀ fuel d, (cmds.flatMap Command.tokens).length ≤ fuel →
      parseLoop fuel cmd d (cmds.flatMap Command.tokens) =
        some (.ok ((cmds.flatMap Command.steps).foldl Drawing.draw d)) := by
  induction cmds generalizing cmd with
  | nil =>
    intro fuel d _
    cases fuel <;> rfl
  | cons c cmds ih =>
    intro fuel d hfuel
    obtain ⟨⟨command, hcommand, hclose, hopen⟩, hrest⟩ := List.forall_mem_cons.mp hwell
    obtain ⟨hnext, hrel⟩ := commandOf_following hcommand
    rw [List.flatMap_cons] at hfuel ⊢
    rw [List.flatMap_cons, List.foldl_append]
    obtain ⟨fuel, rfl⟩ : ∃ n, fuel = n + 1 := by
      refine ⟨fuel - 1, ?_⟩
      rw [List.length_append, Command.tokens, List.length_cons] at hfuel
      omega
    obtain ⟨letter, groups⟩ := c
    cases groups with
    | nil =>
      have hc : command = .close := by
        by_contra hne
        exact (hopen hne).1 rfl
      have hsteps : Command.steps ⟨letter, ([] : List (List K))⟩ =
          [⟨command, isRel letter, []⟩] := by
        unfold Command.steps
        rw [hcommand]
      have hargs : ([] : List K).length = command.contexts.length := by rw [hc]; rfl
      rw [List.length_append, Command.tokens, List.length_cons] at hfuel
      rw [hsteps]
      refine (parseLoop_turn fuel d (readStep_named hcommand hargs)).trans ?_
      exact ih hrest _ fuel _ (by omega)
    | cons g groups =>
      have hc : command ≠ .close := fun h => List.cons_ne_nil _ _ (hclose h)
      obtain ⟨hg, hgs⟩ := List.forall_mem_cons.mp (hopen hc).2
      have hsteps : Command.steps ⟨letter, g :: groups⟩ =
          ⟨command, isRel letter, g⟩ :: bareSteps (following letter command) groups := by
        unfold Command.steps bareSteps
        rw [hcommand, hnext, hrel]
      have hrepeats : Repeats (following letter command) groups := fun _ =>
        ⟨nextOf command, hnext, nextOf_ne_close hc, nextOf_ne_moveTo command, fun g hg => by
          rw [length_contexts_nextOf]
          exact hgs g hg⟩
      have htokens : Command.tokens ⟨letter, g :: groups⟩ ++ cmds.flatMap Command.tokens =
          .cmd letter :: (g.map .num ++ (groups.flatten.map .num ++
            cmds.flatMap Command.tokens)) := by
        simp [Command.tokens]
      rw [htokens] at hfuel ⊢
      rw [hsteps, parseLoop_turn fuel d (readStep_named hcommand hg), List.foldl_cons]
      refine parseLoop_bare hrepeats (fun fuel d h => ih hrest _ fuel d h) fuel _ ?_
      rw [List.length_cons, List.length_append] at hfuel
      omega

end Run

/-! ## The explicit form -/

/-- What the numbers of a relative command are counted from. -/
def offsets (pen : Pen K) : PathCommand → List K
  | .moveTo => [pen.x, pen.y]
  | .lineTo => [pen.x, pen.y]
  | .horizontal => [pen.x]
  | .vertical => [pen.y]
  | .cubic => [pen.x, pen.y, pen.x, pen.y, pen.x, pen.y]
  | .quadratic => [pen.x, pen.y, pen.x, pen.y]
  | .close => []

def absolute (pen : Pen K) (s : Step K) : Step K where
  command := s.command
  relative := false
  args := if s.relative then (offsets pen s.command).zipWith (· + ·) s.args else s.args

def after (pen : Pen K) (s : Step K) : Pen K :=
  match s.command, s.args with
  | .moveTo, [x, y] => ⟨x, y, x, y⟩
  | .lineTo, [x, y] => pen.to x y
  | .horizontal, [x] => pen.to x pen.y
  | .vertical, [y] => pen.to pen.x y
  | .cubic, [_, _, _, _, x, y] => pen.to x y
  | .quadratic, [_, _, x, y] => pen.to x y
  | .close, _ => pen.to pen.startX pen.startY
  | _, _ => pen

def absoluteSteps : Pen K → List (Step K) → List (Step K)
  | _, [] => []
  | pen, s :: steps => absolute pen s :: absoluteSteps (after pen (absolute pen s)) steps

def letterOf : PathCommand → Char
  | .moveTo => 'M'
  | .lineTo => 'L'
  | .horizontal => 'H'
  | .vertical => 'V'
  | .cubic => 'C'
  | .quadratic => 'Q'
  | .close => 'Z'

def named (s : Step K) : Command K where
  letter := letterOf s.command
  groups := if s.command = .close then [] else [s.args]

def explicit (cmds : List (Command K)) : List (Command K) :=
  (absoluteSteps ⟨0, 0, 0, 0⟩ (cmds.flatMap Command.steps)).map named

def Complete (s : Step K) : Prop := s.args.length = s.command.contexts.length

lemma commandOf_letterOf (command : PathCommand) :
    commandOf (letterOf command) = some command ∧ isRel (letterOf command) = false := by
  cases command <;> exact ⟨rfl, rfl⟩

lemma draw_absolute (h : Complete s) (d : Drawing K) :
    d.draw (absolute d.pen s) = d.draw s ∧ (d.draw s).pen = after d.pen (absolute d.pen s) := by
  obtain ⟨command, relative, args⟩ := s
  cases command with
  | moveTo =>
    obtain ⟨x, y, rfl⟩ := List.length_eq_two.mp h
    cases relative <;> exact ⟨rfl, rfl⟩
  | lineTo =>
    obtain ⟨x, y, rfl⟩ := List.length_eq_two.mp h
    cases relative <;> exact ⟨rfl, rfl⟩
  | horizontal =>
    obtain ⟨x, rfl⟩ := List.length_eq_one_iff.mp h
    cases relative <;> exact ⟨rfl, rfl⟩
  | vertical =>
    obtain ⟨y, rfl⟩ := List.length_eq_one_iff.mp h
    cases relative <;> exact ⟨rfl, rfl⟩
  | cubic =>
    match args, h with
    | [x1, y1, x2, y2, x, y], _ => cases relative <;> exact ⟨rfl, rfl⟩
  | quadratic =>
    match args, h with
    | [x1, y1, x, y], _ => cases relative <;> exact ⟨rfl, rfl⟩
  | close =>
    obtain rfl := List.length_eq_zero_iff.mp h
    cases relative <;> exact ⟨rfl, rfl⟩

lemma complete_absolute (h : Complete s) (pen : Pen K) : Complete (absolute pen s) := by
  have hoffsets : (offsets pen s.command).length = s.command.contexts.length := by
    cases s.command <;> rfl
  unfold Complete absolute at *
  dsimp only
  split_ifs
  · rw [List.length_zipWith, hoffsets, h, min_self]
  · exact h

lemma foldl_absoluteSteps {steps : List (Step K)} (h : ∀ s ∈ steps, Complete s) (d : Drawing K) :
    (absoluteSteps d.pen steps).foldl Drawing.draw d = steps.foldl Drawing.draw d ∧
      ∀ s ∈ absoluteSteps d.pen steps, Complete s ∧ s.relative = false := by
  induction steps generalizing d with
  | nil => exact ⟨rfl, fun s hs => absurd hs List.not_mem_nil⟩
  | cons s steps ih =>
    obtain ⟨hs, hsteps⟩ := List.forall_mem_cons.mp h
    obtain ⟨hdraw, hpen⟩ := draw_absolute hs d
    obtain ⟨hfold, hall⟩ := ih hsteps (d.draw s)
    rw [hpen] at hfold hall
    unfold absoluteSteps
    rw [List.foldl_cons, List.foldl_cons, hdraw]
    exact ⟨hfold, List.forall_mem_cons.mpr ⟨⟨complete_absolute hs d.pen, rfl⟩, hall⟩⟩

lemma complete_of_mem_steps {c : Command K} (hwell : c.WellFormed) : ∀ s ∈ c.steps, Complete s := by
  obtain ⟨command, hcommand, hclose, hopen⟩ := hwell
  obtain ⟨letter, groups⟩ := c
  unfold Command.steps
  rw [hcommand]
  cases groups with
  | nil =>
    have hc : command = .close := by
      by_contra hne
      exact (hopen hne).1 rfl
    subst hc
    exact List.forall_mem_singleton.mpr rfl
  | cons g groups =>
    have hc : command ≠ .close := fun h => List.cons_ne_nil _ _ (hclose h)
    obtain ⟨hg, hgs⟩ := List.forall_mem_cons.mp (hopen hc).2
    refine List.forall_mem_cons.mpr ⟨hg, List.forall_mem_map.mpr fun g hg => ?_⟩
    exact (hgs g hg).trans (length_contexts_nextOf command).symm

/-- One group at most, of absolute numbers. -/
structure Command.Explicit (c : Command K) : Prop where
  absolute : isRel c.letter = false
  single : c.groups.length ≤ 1

lemma explicit_named (s : Step K) : (named s).Explicit := by
  refine ⟨(commandOf_letterOf s.command).2, ?_⟩
  unfold named
  dsimp only
  split_ifs
  · exact Nat.zero_le _
  · exact le_rfl

lemma wellFormed_named (h : Complete s) : (named s).WellFormed := by
  refine ⟨s.command, (commandOf_letterOf s.command).1, fun hclose => if_pos hclose, fun hopen => ?_⟩
  have hgroups : (named s).groups = [s.args] := if_neg hopen
  rw [hgroups]
  exact ⟨List.cons_ne_nil _ _, List.forall_mem_singleton.mpr h⟩

lemma steps_named (h : Complete s) (habsolute : s.relative = false) : (named s).steps = [s] := by
  obtain ⟨hcommand, hrel⟩ := commandOf_letterOf s.command
  obtain ⟨command, relative, args⟩ := s
  obtain rfl := habsolute
  dsimp only at hcommand hrel
  unfold Command.steps named
  dsimp only
  rw [hcommand, hrel]
  by_cases hclose : command = .close
  · subst hclose
    obtain rfl := List.length_eq_zero_iff.mp h
    rfl
  · rw [if_neg hclose]
    rfl

lemma flatMap_steps_named {steps : List (Step K)}
    (h : ∀ s ∈ steps, Complete s ∧ s.relative = false) :
    (steps.map named).flatMap Command.steps = steps := by
  induction steps with
  | nil => rfl
  | cons s steps ih =>
    obtain ⟨⟨hcomplete, habsolute⟩, hsteps⟩ := List.forall_mem_cons.mp h
    rw [List.map_cons, List.flatMap_cons, steps_named hcomplete habsolute, ih hsteps]
    rfl

/-! ## The paths that are accepted -/

/-- Well-formed commands that spell the tokens, a move first. -/
structure Grammar (tokens : List (Token K)) (cmds : List (Command K)) : Prop where
  spelt : tokens = cmds.flatMap Command.tokens
  wellFormed : ∀ c ∈ cmds, c.WellFormed
  starts : ∃ c rest, cmds = c :: rest ∧ commandOf c.letter = some .moveTo

def drawn (cmds : List (Command K)) : List (List (PlanePoint K)) :=
  ((cmds.flatMap Command.steps).foldl Drawing.draw .empty).kept

lemma commandOf_eq_moveTo {c : Char} : commandOf c = some .moveTo ↔ c.toUpper = 'M' := by
  unfold commandOf
  split <;> simp_all

lemma Grammar.complete {tokens : List (Token K)} {cmds : List (Command K)}
    (h : Grammar tokens cmds) : ∀ s ∈ cmds.flatMap Command.steps, Complete s := by
  intro s hs
  obtain ⟨c, hc, hs⟩ := List.mem_flatMap.mp hs
  exact complete_of_mem_steps (h.wellFormed c hc) s hs

lemma Grammar.explicit {tokens : List (Token K)} {cmds : List (Command K)}
    (h : Grammar tokens cmds) :
    Grammar ((PathGrammar.explicit cmds).flatMap Command.tokens) (PathGrammar.explicit cmds) ∧
      (∀ c ∈ PathGrammar.explicit cmds, c.Explicit) ∧
      drawn (PathGrammar.explicit cmds) = drawn cmds := by
  obtain ⟨hfold, hall⟩ := foldl_absoluteSteps h.complete Drawing.empty
  refine ⟨⟨rfl, List.forall_mem_map.mpr fun s hs => wellFormed_named (hall s hs).1, ?_⟩,
    List.forall_mem_map.mpr fun s _ => explicit_named s, ?_⟩
  · obtain ⟨c, rest, rfl, hmove⟩ := h.starts
    obtain ⟨command, hcommand, -, hopen⟩ := h.wellFormed c List.mem_cons_self
    obtain rfl := Option.some.inj (hcommand.symm.trans hmove)
    obtain ⟨g, groups, hgroups⟩ :=
      List.exists_cons_of_ne_nil (hopen PathCommand.noConfusion).1
    let first : Step K := ⟨.moveTo, isRel c.letter, g⟩
    have hsteps : c.steps = first :: groups.map (⟨.lineTo, isRel c.letter, ·⟩) := by
      unfold Command.steps
      rw [hcommand, hgroups]
      rfl
    refine ⟨named (absolute ⟨0, 0, 0, 0⟩ first), List.map named (absoluteSteps
      (after ⟨0, 0, 0, 0⟩ (absolute ⟨0, 0, 0, 0⟩ first))
      (groups.map (⟨.lineTo, isRel c.letter, ·⟩) ++ rest.flatMap Command.steps)), ?_,
      (commandOf_letterOf .moveTo).1⟩
    unfold PathGrammar.explicit
    rw [List.flatMap_cons, hsteps]
    rfl
  · have hsteps : (PathGrammar.explicit cmds).flatMap Command.steps =
        absoluteSteps ⟨0, 0, 0, 0⟩ (cmds.flatMap Command.steps) := flatMap_steps_named hall
    unfold drawn
    rw [hsteps]
    exact congrArg Drawing.kept hfold

lemma tokenize_blank (h : cs.all VaultClient.isJsSpace)
    (hfuel : cs.length ≤ fuel) : (tokenize fuel cs : Option (Except String (List (Token K)))) =
      some (.ok []) := by
  induction fuel generalizing cs with
  | zero =>
    obtain rfl := List.length_eq_zero_iff.mp (Nat.le_zero.mp hfuel)
    rfl
  | succ fuel ih =>
    cases cs with
    | nil => rfl
    | cons c cs =>
      obtain ⟨hc, hcs⟩ := (Bool.and_eq_true _ _).mp h
      have hseparator : isSeparator c = true := by
        unfold isSeparator
        rw [hc]
        rfl
      unfold tokenize
      rw [if_pos hseparator]
      exact ih hcs (Nat.le_of_succ_le_succ hfuel)

variable [LinearOrder K] [FloorRing K]

lemma parseTokens_eq_ok {tokens : List (Token K)} (hfuel : tokens.length ≤ fuel)
    {contours : List (List (PlanePoint K))} :
    parseTokens fuel tokens = some (.ok contours) ↔
      ∃ cmds, Grammar tokens cmds ∧ drawn cmds = contours := by
  constructor
  · intro h
    unfold parseTokens at h
    split at h
    · cases h
    · cases h
    · next c rest =>
      split_ifs at h with hmove
      · cases h
      obtain ⟨result, hloop, hresult⟩ := Option.map_eq_some_iff.mp h
      obtain ⟨d, rfl, rfl⟩ := map_eq_ok.mp hresult
      obtain ⟨groups, cmds, hspelt, hrepeats, hwell⟩ :=
        commands_of_parseLoop (by decide : commandOf ' ' ≠ some .moveTo) hloop
      have hnone : groups = [] := by
        by_contra hne
        obtain ⟨command, hcommand, -⟩ := hrepeats hne
        cases hcommand
      subst hnone
      have htokens : Token.cmd c :: rest = cmds.flatMap Command.tokens := hspelt
      have hstarts : ∃ c rest, cmds = c :: rest ∧ commandOf c.letter = some .moveTo := by
        cases cmds with
        | nil => cases htokens
        | cons c' cmds =>
          refine ⟨c', cmds, rfl, commandOf_eq_moveTo.mpr ?_⟩
          obtain rfl : c = c'.letter := Token.cmd.inj (List.cons.inj htokens).1
          exact not_not.mp hmove
      refine ⟨cmds, ⟨htokens, hwell, hstarts⟩, ?_⟩
      rw [htokens] at hloop
      have hrun := parseLoop_commands hwell ' ' fuel Drawing.empty (htokens ▸ hfuel)
      obtain rfl := Except.ok.inj (Option.some.inj (hloop.symm.trans hrun))
      rfl
  · rintro ⟨cmds, ⟨rfl, hwell, c, rest, rfl, hmove⟩, rfl⟩
    have hrun := parseLoop_commands hwell ' ' fuel Drawing.empty hfuel
    unfold parseTokens
    rw [List.flatMap_cons, Command.tokens, List.cons_append]
    dsimp only
    rw [if_neg (not_not.mpr (commandOf_eq_moveTo.mp hmove))]
    exact congrArg (Option.map _) hrun

lemma isSome_parseTokens {tokens : List (Token K)} (h : tokens.length ≤ fuel) :
    (parseTokens fuel tokens).isSome := by
  unfold parseTokens
  split
  · rfl
  · rfl
  · split_ifs
    · rfl
    · rw [Option.isSome_map]
      exact isSome_parseLoop h

lemma parsePathCommands_eq_ok {d : List Char} {contours : List (List (PlanePoint K))} :
    parsePathCommands d = some (.ok contours) ↔ ∃ tokens, tokenize d.length d = some (.ok tokens) ∧
        parseTokens tokens.length tokens = some (.ok contours) := by
  unfold parsePathCommands
  split_ifs with hblank
  · rw [tokenize_blank hblank le_rfl]
    constructor
    · intro h
      cases h
    · rintro ⟨tokens, htokens, hparse⟩
      obtain rfl := Except.ok.inj (Option.some.inj htokens)
      cases hparse
  · split
    · next hnone => rw [hnone]; simp
    · next text herror => rw [herror]; simp
    · next tokens hok =>
      rw [hok]
      exact ⟨fun h => ⟨tokens, rfl, h⟩, fun ⟨tokens', htokens, h⟩ =>
        Except.ok.inj (Option.some.inj htokens) ▸ h⟩

lemma isSome_parsePathCommands (d : List Char) :
    (parsePathCommands d : Option (Except String (List (List (PlanePoint K))))).isSome := by
  unfold parsePathCommands
  split_ifs
  · rfl
  · have hsome := isSome_tokenize (K := K) (le_refl d.length)
    split
    · next hnone =>
      rw [hnone] at hsome
      cases hsome
    · rfl
    · exact isSome_parseTokens le_rfl

/-- The outcome of `parsePathCommands`. -/
def pathContours (d : List Char) : Except String (List (List (PlanePoint K))) :=
  (parsePathCommands d).get (isSome_parsePathCommands d)

/-- Both loops end; what is accepted is what the grammar describes; and the explicit form of an
accepted path has the same contours. -/
theorem parsePathCommands_grammar (d : List Char) :
    ∃ result : Except String (List (List (PlanePoint K))), parsePathCommands d = some result ∧
      ((∃ contours, result = .ok contours) ↔ ∃ (tokens : List (Token K)) (cmds : List (Command K)),
        tokenize d.length d = some (.ok tokens) ∧ Grammar tokens cmds) ∧
      ∀ (contours : List (List (PlanePoint K))) (tokens : List (Token K)) (cmds : List (Command K)),
        result = .ok contours → tokenize d.length d = some (.ok tokens) →
        Grammar tokens cmds →
        (∀ c ∈ explicit cmds, c.Explicit) ∧
          Grammar ((explicit cmds).flatMap Command.tokens) (explicit cmds) ∧
          parseTokens ((explicit cmds).flatMap Command.tokens).length
            ((explicit cmds).flatMap Command.tokens) = some (.ok contours) := by
  obtain ⟨result, hresult⟩ := Option.isSome_iff_exists.mp (isSome_parsePathCommands (K := K) d)
  have hparse : ∀ {tokens : List (Token K)} {cmds : List (Command K)},
      tokenize d.length d = some (.ok tokens) → Grammar tokens cmds →
      result = .ok (drawn cmds) := by
    intro tokens cmds htokens hgrammar
    refine Option.some.inj (hresult.symm.trans (parsePathCommands_eq_ok.mpr ⟨tokens, htokens, ?_⟩))
    exact (parseTokens_eq_ok le_rfl).mpr ⟨cmds, hgrammar, rfl⟩
  refine ⟨result, hresult, ⟨?_, ?_⟩, ?_⟩
  · rintro ⟨contours, rfl⟩
    obtain ⟨tokens, htokens, hok⟩ := parsePathCommands_eq_ok.mp hresult
    obtain ⟨cmds, hgrammar, -⟩ := (parseTokens_eq_ok le_rfl).mp hok
    exact ⟨tokens, cmds, htokens, hgrammar⟩
  · rintro ⟨tokens, cmds, htokens, hgrammar⟩
    exact ⟨drawn cmds, hparse htokens hgrammar⟩
  · intro contours tokens cmds hcontours htokens hgrammar
    obtain ⟨hexplicit, hall, hdrawn⟩ := hgrammar.explicit
    have heq : contours = drawn cmds :=
      Except.ok.inj (hcontours.symm.trans (hparse htokens hgrammar))
    refine ⟨hall, hexplicit, (parseTokens_eq_ok le_rfl).mpr ⟨_, hexplicit, ?_⟩⟩
    rw [hdrawn, heq]

/-- A number behind a closing letter is refused: it repeats nothing. -/
example : (parsePathCommands "M0 0 L1 1 Z 2 2".toList : Option (Except String (List (List
    (PlanePoint ℚ))))) = some (.error ("Malformed SVG path data: 'Z' does not take parameters " ++
      "and cannot be implicitly repeated.")) := by
  decide +kernel

end Taramandal.Studio.PathGrammar
