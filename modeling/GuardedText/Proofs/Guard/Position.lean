import GuardedText.Proofs.Guard.Grammar

/-! What can stand next in a guard. Of the tokens read so far it matters only what is due, an
operand or what may follow one, and how many parentheses are open. An automaton over such positions
takes the tokens one by one. It refuses what reading refuses, with the same fault, though reading
goes down into each pair of parentheses by calls of its own. -/

namespace GuardedText.Guard

/-- What is due next. Behind `not` only a primary can stand. -/
inductive Due where
  | operand | primary | operator
  deriving DecidableEq, Repr

/-- What is due, inside how many open parentheses. -/
structure Position where
  due : Due
  depth : Nat
  deriving DecidableEq, Repr

namespace Position

def start : Position := ⟨.operand, 0⟩

/-- Where a complete expression leaves the automaton. -/
def accepting : Position := ⟨.operator, 0⟩

/-- A token where an operand is complete. -/
def stepAfter (depth : Nat) (t : Token) : Except Fault Position :=
  match t, depth with
  | .keyword .and, depth | .keyword .or, depth => .ok ⟨.operand, depth⟩
  | .closing, depth + 1 => .ok ⟨.operator, depth⟩
  | t, 0 => .error (.trailing t)
  | t, _ + 1 => .error (.unclosed t)

/-- A token where an operand is due. -/
def stepOperand (negatable : Bool) (depth : Nat) (t : Token) : Except Fault Position :=
  match t, negatable with
  | .name _, _ => .ok ⟨.operator, depth⟩
  | .opening, _ => .ok ⟨.operand, depth + 1⟩
  | .keyword .not, true => .ok ⟨.primary, depth⟩
  | t, _ => .error (.unexpected t)

def step (s : Position) (t : Token) : Except Fault Position :=
  match s.due with
  | .operand => stepOperand true s.depth t
  | .primary => stepOperand false s.depth t
  | .operator => stepAfter s.depth t

def walk (s : Position) : List Token → Except Fault Position
  | [] => .ok s
  | t :: ts => (step s t).bind fun s => walk s ts

/-- The tokens end here. -/
def finish (s : Position) : Except Fault Unit :=
  if s = accepting then .ok () else .error .unexpectedEnd

/-- Takes the last tokens of a guard. -/
def scan (s : Position) (ts : List Token) : Except Fault Unit :=
  (walk s ts).bind finish

theorem walk_append (s : Position) (ts us : List Token) :
    walk s (ts ++ us) = (walk s ts).bind fun s => walk s us := by
  induction ts generalizing s with
  | nil => rfl
  | cons t ts ih =>
    simp only [List.cons_append, walk]
    cases step s t with
    | error f => rfl
    | ok s' => exact ih s'

theorem scan_cons_of_ok {s s' : Position} {t : Token} (h : step s t = .ok s') (ts : List Token) :
    scan s (t :: ts) = scan s' ts := by
  simp only [scan, walk, h]
  rfl

theorem scan_cons_of_error {s : Position} {t : Token} {f : Fault} (h : step s t = .error f)
    (ts : List Token) : scan s (t :: ts) = .error f := by
  simp only [scan, walk, h]
  rfl

theorem scan_nil_of_ne {s : Position} (h : s ≠ accepting) : scan s [] = .error .unexpectedEnd :=
  if_neg h

/-! ### The readers move between positions -/

/-- What reading some of the tokens came to is what the automaton comes to: the same fault, or
behind the tokens read and before a rest that `stops` reading, a position where an operand is
complete at the depth where reading began. -/
def Tracks (s : Position) (ts : List Token) (stops : List Token → Prop) : Outcome → Prop
  | .error f => scan s ts = .error f
  | .ok (_, rest) => stops rest ∧ scan s ts = scan ⟨.operator, s.depth⟩ rest

theorem Tracks.of_scan_eq {s s' : Position} {ts ts' : List Token} {stops : List Token → Prop}
    {r : Outcome} (h : Tracks s' ts' stops r) (hscan : scan s ts = scan s' ts')
    (hdepth : s'.depth = s.depth) : Tracks s ts stops r := by
  match r with
  | .error f => exact hscan.trans h
  | .ok (e, rest) =>
    obtain ⟨hstops, hrest⟩ := h
    rw [hdepth] at hrest
    exact ⟨hstops, hscan.trans hrest⟩

theorem Tracks.map {s : Position} {ts : List Token} {stops : List Token → Prop} {r : Outcome}
    (h : Tracks s ts stops r) (g : Expr → Expr) :
    Tracks s ts stops (r.map fun q => (g q.1, q.2)) := by
  match r with
  | .error f => exact h
  | .ok (e, rest) => exact h

/-- Reading on behind what was read. -/
theorem Tracks.bind {s : Position} {ts : List Token} {stops stops' : List Token → Prop}
    {r : Outcome} {next : Expr × List Token → Outcome} (h : Tracks s ts stops r)
    (hnext : ∀ e rest, r = .ok (e, rest) → stops rest →
      Tracks ⟨.operator, s.depth⟩ rest stops' (next (e, rest))) :
    Tracks s ts stops' (r.bind next) := by
  match r, h, hnext with
  | .error f, h, _ => exact h
  | .ok (e, rest), ⟨hstops, hscan⟩, hnext => exact (hnext e rest rfl hstops).of_scan_eq hscan rfl

/-- Where an operand is due, the automaton takes what a primary begins with. -/
def Awaits (s : Position) (ts : List Token) : Prop :=
  s.due = .primary ∨ s.due = .operand ∧ ts.head? ≠ some (.keyword .not)

theorem Awaits.ne_accepting {s : Position} {ts : List Token} (h : Awaits s ts) :
    s ≠ accepting := by
  rintro rfl
  rcases h with h | ⟨h, -⟩ <;> cases h

theorem Awaits.step_eq {s : Position} {t : Token} {ts : List Token} (h : Awaits s (t :: ts)) :
    step s t = stepOperand false s.depth t := by
  rcases h with h | ⟨h, hhead⟩
  · rw [step, h]
  · rw [step, h]
    match t with
    | .keyword .not => exact absurd rfl hhead
    | .name _ | .opening | .closing | .keyword .and | .keyword .or => rfl

/-- Any rest will do. -/
def anywhere (_ : List Token) : Prop := True

mutual

theorem tracks_primary (s : Position) (ts : List Token) (h : Awaits s ts) :
    Tracks s ts anywhere (read .primary ts) := by
  match ts with
  | [] =>
    rw [read_primary_nil]
    exact scan_nil_of_ne h.ne_accepting
  | .name x :: ts =>
    rw [read_primary_name]
    exact ⟨trivial, scan_cons_of_ok h.step_eq ts⟩
  | .keyword k :: ts =>
    rw [read_primary_keyword]
    exact scan_cons_of_error (h.step_eq.trans (by cases k <;> rfl)) ts
  | .closing :: ts =>
    rw [read_primary_closing]
    exact scan_cons_of_error h.step_eq ts
  | .opening :: ts =>
    have ih := tracks_disjunction (s.depth + 1) ts
    have hopen : scan s (.opening :: ts) = scan ⟨.operand, s.depth + 1⟩ ts :=
      scan_cons_of_ok h.step_eq ts
    rw [read_primary_opening]
    match read .disjunction ts, ih with
    | .error f, hf => exact hopen.trans hf
    | .ok (e, rest), ⟨hends, hrest⟩ =>
      have hinner := hopen.trans hrest
      -- Inside the pair reading stops before neither `and` nor `or`, and the automaton goes on at
      -- these two alone, so a token other than the closing one is refused by both.
      match rest with
      | [] => exact hinner.trans (scan_nil_of_ne (by simp [accepting]))
      | .closing :: rest => exact ⟨trivial, hinner.trans (scan_cons_of_ok rfl rest)⟩
      | .opening :: rest | .name _ :: rest | .keyword .not :: rest =>
        exact hinner.trans (scan_cons_of_error rfl rest)
      | .keyword .and :: _ => exact absurd rfl hends.1
      | .keyword .or :: _ => exact absurd rfl hends.2
termination_by (ts.length, 0)

theorem tracks_factor (depth : Nat) (ts : List Token) :
    Tracks ⟨.operand, depth⟩ ts anywhere (read .factor ts) := by
  by_cases hn : ts.head? = some (.keyword .not)
  · match ts with
    | .keyword .not :: ts =>
      have ih := tracks_primary ⟨.primary, depth⟩ ts (.inl rfl)
      rw [read_factor_not]
      exact (ih.map .not).of_scan_eq (scan_cons_of_ok rfl ts) rfl
  · rw [read_factor_of_head_ne hn]
    exact tracks_primary ⟨.operand, depth⟩ ts (.inr ⟨rfl, hn⟩)
termination_by (ts.length, 1)

theorem tracks_more (depth : Nat) (left : Expr) (ts : List Token) :
    Tracks ⟨.operator, depth⟩ ts (·.head? ≠ some (.keyword .and)) (readMore left ts) := by
  by_cases ha : ts.head? = some (.keyword .and)
  · match ts with
    | .keyword .and :: ts =>
      have ih := tracks_factor depth ts
      rw [readMore_and]
      refine Tracks.of_scan_eq (ih.bind fun e rest hread _ => ?_) (scan_cons_of_ok rfl ts) rfl
      have fewer := length_lt_of_read hread
      exact tracks_more depth _ rest
  · rw [readMore_of_head_ne left ha]
    exact ⟨ha, rfl⟩
termination_by (ts.length, 2)

theorem tracks_conjunction (depth : Nat) (ts : List Token) :
    Tracks ⟨.operand, depth⟩ ts (·.head? ≠ some (.keyword .and)) (read .conjunction ts) := by
  have ih := tracks_factor depth ts
  rw [read_conjunction]
  refine ih.bind fun e rest hread _ => ?_
  have fewer := length_lt_of_read hread
  exact tracks_more depth e rest
termination_by (ts.length, 3)

theorem tracks_disjunction (depth : Nat) (ts : List Token) :
    Tracks ⟨.operand, depth⟩ ts Ends (read .disjunction ts) := by
  have ih := tracks_conjunction depth ts
  rw [read_disjunction]
  refine ih.bind fun e rest hread hand => ?_
  have fewer := length_lt_of_read hread
  by_cases ho : rest.head? = some (.keyword .or)
  · match rest, fewer with
    | .keyword .or :: us, fewer =>
      have shorter : us.length < ts.length := Nat.lt_of_succ_lt fewer
      have more := tracks_disjunction depth us
      exact (more.map (.or e)).of_scan_eq (scan_cons_of_ok rfl us) rfl
  · have hends : Ends rest := ⟨hand, ho⟩
    rw [readAfterConjunction_of_ends e hends]
    exact ⟨hends, rfl⟩
termination_by (ts.length, 4)

end

end Position

/-- Reading a whole sequence comes to what the automaton comes to. -/
theorem parseTokens_eq_scan {ts : List Token} (h : ts ≠ []) :
    (parseTokens ts).map (fun _ => ()) = Position.scan .start ts := by
  have htracks : Position.Tracks .start ts Ends (read .disjunction ts) :=
    Position.tracks_disjunction 0 ts
  rw [parseTokens_of_ne_nil h]
  match read .disjunction ts, htracks with
  | .error f, hf => exact hf.symm
  | .ok (e, []), ⟨_, hscan⟩ => exact hscan.symm
  | .ok (e, t :: rest), ⟨hends, hscan⟩ =>
    have hstop : Position.step .accepting t = .error (.trailing t) := by
      match t with
      | .keyword .and => exact absurd rfl hends.1
      | .keyword .or => exact absurd rfl hends.2
      | .keyword .not | .name _ | .opening | .closing => rfl
    exact (hscan.trans (Position.scan_cons_of_error hstop rest)).symm

end GuardedText.Guard
