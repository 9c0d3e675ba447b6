import GuardedText.Proofs.Guard.Grammar
import Mathlib

/-! What a guard means by its tokens alone, without a tree. The tokens are cut at each `or` outside
parentheses into terms, and each term at each such `and` into factors; a guard holds iff all factors
of one of its terms do. Evaluating the tree of a guard gives the same, although the tree nests `or`
and `and` to opposite sides. The reason is that parentheses pair up within every phrase, so cutting
finds no other operators than those that the grammar puts between its phrases. -/

namespace GuardedText.Guard

/-- How many parentheses are open behind a token, if `depth` are before it. -/
def Token.depthAfter (depth : Nat) : Token → Nat
  | .opening => depth + 1
  | .closing => depth - 1
  | _ => depth

/-- The pieces of a token list between the keywords `k` outside all parentheses, of which `depth`
are open where the list begins. -/
def pieces (k : Keyword) (depth : Nat) : List Token → List (List Token)
  | [] => [[]]
  | t :: ts =>
    if depth = 0 ∧ t = .keyword k then [] :: pieces k 0 ts
    else (pieces k (t.depthAfter depth) ts).modifyHead (t :: ·)

theorem length_le_of_mem_pieces {k : Keyword} {depth : Nat} {ts piece : List Token}
    (h : piece ∈ pieces k depth ts) : piece.length ≤ ts.length := by
  induction ts generalizing depth piece with
  | nil =>
    simp only [pieces, List.mem_singleton] at h
    simp [h]
  | cons t ts ih =>
    rw [pieces] at h
    split at h
    · rcases List.mem_cons.mp h with rfl | h
      · simp
      · have := ih h
        simp only [List.length_cons]
        omega
    · cases hp : pieces k (t.depthAfter depth) ts with
      | nil => simp [hp] at h
      | cons first rest =>
        rw [hp, List.modifyHead_cons] at h
        rcases List.mem_cons.mp h with rfl | h
        · have := @ih (t.depthAfter depth) first (by simp [hp])
          simp only [List.length_cons]
          omega
        · have := @ih (t.depthAfter depth) piece (by simp [hp, h])
          simp only [List.length_cons]
          omega

mutual

/-- The truth of a guard: some term has all its factors true. -/
def truth (active : String → Bool) (ts : List Token) : Bool :=
  (pieces .or 0 ts).attach.any fun term =>
    (pieces .and 0 term.1).attach.all fun factor => factorTruth active factor.1
termination_by (ts.length, 1)
decreasing_by
  have hterm := length_le_of_mem_pieces term.2
  have hfactor := length_le_of_mem_pieces factor.2
  have := Nat.le_trans hfactor hterm
  omega

/-- The truth of a factor: a name, `not` before a factor, or a guard in parentheses. -/
def factorTruth (active : String → Bool) (ts : List Token) : Bool :=
  match ts with
  | [.name s] => active s
  | .keyword .not :: rest => !factorTruth active rest
  | .opening :: rest => rest.getLast? = some .closing && truth active rest.dropLast
  | _ => false
termination_by (ts.length, 0)

end

/-- The truth of a term: all its factors are true. -/
def termTruth (active : String → Bool) (ts : List Token) : Bool :=
  (pieces .and 0 ts).all (factorTruth active)

variable (active : String → Bool)

theorem truth_eq_any (ts : List Token) :
    truth active ts = (pieces .or 0 ts).any (termTruth active) := by
  have hterm : termTruth active = fun term => (pieces .and 0 term).all (factorTruth active) := rfl
  rw [truth, hterm]
  simp

theorem factorTruth_name (s : String) : factorTruth active [.name s] = active s := by
  rw [factorTruth]

theorem factorTruth_not (ts : List Token) :
    factorTruth active (.keyword .not :: ts) = !factorTruth active ts := by
  rw [factorTruth]

theorem factorTruth_group (ts : List Token) :
    factorTruth active (.opening :: (ts ++ [.closing])) = truth active ts := by
  rw [factorTruth]
  simp

/-! ### Where phrases are cut -/

/-- Cutting does not cut these tokens, and leaves as many parentheses open behind them as were open
before. -/
def Whole (k : Keyword) (depth : Nat) (ts : List Token) : Prop :=
  ∀ rest, pieces k depth (ts ++ rest) = (pieces k depth rest).modifyHead (ts ++ ·)

theorem whole_token {k : Keyword} {depth : Nat} {t : Token} (hdepth : t.depthAfter depth = depth)
    (hcut : ¬ (depth = 0 ∧ t = .keyword k)) : Whole k depth [t] := by
  intro rest
  rw [List.singleton_append, pieces, if_neg hcut, hdepth]
  rfl

theorem Whole.append {k : Keyword} {depth : Nat} {ts us : List Token} (ht : Whole k depth ts)
    (hu : Whole k depth us) : Whole k depth (ts ++ us) := by
  intro rest
  rw [List.append_assoc, ht, hu, List.modifyHead_modifyHead]
  congr 1
  funext piece
  simp

/-- Nothing is cut inside parentheses. -/
theorem Whole.group {k : Keyword} {depth : Nat} {ts : List Token} (h : Whole k (depth + 1) ts) :
    Whole k depth (.opening :: (ts ++ [.closing])) := by
  intro rest
  have hclose : pieces k (depth + 1) (.closing :: rest) =
      (pieces k depth rest).modifyHead (.closing :: ·) := by
    rw [pieces, if_neg (by simp)]
    rfl
  have hopen : pieces k depth (.opening :: (ts ++ .closing :: rest)) =
      (pieces k (depth + 1) (ts ++ .closing :: rest)).modifyHead (.opening :: ·) := by
    rw [pieces, if_neg (by simp)]
    rfl
  have hshape : Token.opening :: (ts ++ [.closing]) ++ rest =
      .opening :: (ts ++ .closing :: rest) := by simp
  rw [hshape, hopen, h, hclose, List.modifyHead_modifyHead, List.modifyHead_modifyHead]
  congr 1
  funext piece
  simp

theorem Whole.pieces_eq {k : Keyword} {depth : Nat} {ts : List Token} (h : Whole k depth ts) :
    pieces k depth ts = [ts] := by
  have := h []
  simpa [pieces] using this

theorem Whole.pieces_append {k : Keyword} {ts : List Token} (h : Whole k 0 ts)
    (us : List Token) : pieces k 0 (ts ++ .keyword k :: us) = ts :: pieces k 0 us := by
  rw [h, pieces, if_pos ⟨rfl, rfl⟩]
  simp

/-- Whether the keyword does not stand outside parentheses in phrases of a kind. -/
def Phrase.lacks : Phrase → Keyword → Bool
  | .primary, _ => true
  | .factor, k => k != .not
  | .conjunction, k => k == .or
  | .disjunction, _ => false

theorem Phrase.lacks_factor {k : Keyword} (h : Phrase.conjunction.lacks k = true) :
    Phrase.factor.lacks k = true := by
  cases k with
  | or => rfl
  | and | not => cases h

/-- A keyword that joins the parts of a phrase is not cut at where the phrase is not. -/
theorem whole_keyword {phrase : Phrase} {k j : Keyword} {depth : Nat}
    (hk : depth ≠ 0 ∨ phrase.lacks k = true) (hj : phrase.lacks j = false) :
    Whole k depth [.keyword j] := by
  refine whole_token rfl ?_
  rintro ⟨rfl, heq⟩
  cases heq
  rcases hk with hk | hk
  · exact hk rfl
  · exact Bool.false_ne_true (hj.symm.trans hk)

/-- Inside parentheses no phrase is cut, and outside a phrase is cut at the keywords only that its
kind does not lack. -/
theorem Derives.whole {phrase : Phrase} {ts : List Token} {e : Expr} (h : Derives phrase ts e)
    {k : Keyword} {depth : Nat} (hk : depth ≠ 0 ∨ phrase.lacks k = true) : Whole k depth ts := by
  induction h generalizing depth with
  -- `hk` is passed on to the parts of a phrase; a group raises the depth, where it holds by itself.
  | name s => exact whole_token rfl (by simp)
  | group _ ih => exact (ih (.inl (by omega))).group
  | negation _ ih => exact (whole_keyword hk rfl).append (ih (.inr rfl))
  | plain _ ih => exact ih (.inr rfl)
  | single _ ih => exact ih (hk.imp_right Phrase.lacks_factor)
  | conjoin _ _ ihl ihr =>
    have hright := ihr (hk.imp_right Phrase.lacks_factor)
    exact (ihl hk).append ((whole_keyword hk rfl).append hright)
  | alone _ ih => exact ih (hk.imp_right fun h => by cases h)
  | disjoin _ _ ihl ihr =>
    have hleft := ihl (hk.imp_right fun h => by cases h)
    exact hleft.append ((whole_keyword hk rfl).append (ihr hk))

/-- A conjunction is cut into its factors, also if more of them follow. -/
theorem Derives.pieces_and {ts : List Token} {e : Expr} (us : List Token) :
    Derives .conjunction ts e →
      pieces .and 0 (ts ++ .keyword .and :: us) = pieces .and 0 ts ++ pieces .and 0 us
  | .single h => by
    have hwhole : Whole .and 0 ts := h.whole (.inr rfl)
    rw [hwhole.pieces_append, hwhole.pieces_eq]
    rfl
  | @Derives.conjoin _ vs _ _ hl hr => by
    have hwhole : Whole .and 0 vs := hr.whole (.inr rfl)
    rw [List.append_assoc, List.cons_append, hl.pieces_and, hl.pieces_and, hwhole.pieces_append,
      hwhole.pieces_eq]
    simp

/-! ### The truth of a phrase is that of its tree -/

/-- The truth of tokens as a phrase of a kind. -/
def Phrase.truth : Phrase → List Token → Bool
  | .disjunction => Guard.truth active
  | .conjunction => termTruth active
  | .factor | .primary => factorTruth active

theorem Derives.truth_eq {phrase : Phrase} {ts : List Token} {e : Expr}
    (h : Derives phrase ts e) : phrase.truth active ts = e.holds active := by
  induction h with
  | name s => exact factorTruth_name active s
  | group _ ih => exact (factorTruth_group active _).trans ih
  | negation _ ih => exact (factorTruth_not active _).trans (congrArg _ ih)
  | plain _ ih => exact ih
  | @single ts e h ih =>
    have hwhole : Whole .and 0 ts := h.whole (.inr rfl)
    have hterm : termTruth active ts = factorTruth active ts := by
      rw [termTruth, hwhole.pieces_eq]
      simp
    exact hterm.trans ih
  | @conjoin ts us l r hl hr ihl ihr =>
    have hwhole : Whole .and 0 us := hr.whole (.inr rfl)
    have hterm : termTruth active (ts ++ .keyword .and :: us) =
        (termTruth active ts && factorTruth active us) := by
      rw [termTruth, hl.pieces_and, hwhole.pieces_eq, List.all_append]
      simp [termTruth]
    calc termTruth active (ts ++ .keyword .and :: us)
        = (termTruth active ts && factorTruth active us) := hterm
      _ = (l.holds active && r.holds active) := congrArg₂ _ ihl ihr
  | @alone ts e h ih =>
    have hwhole : Whole .or 0 ts := h.whole (.inr rfl)
    have htruth : Guard.truth active ts = termTruth active ts := by
      rw [truth_eq_any, hwhole.pieces_eq]
      simp
    exact htruth.trans ih
  | @disjoin ts us l r hl hr ihl ihr =>
    have hwhole : Whole .or 0 ts := hl.whole (.inr rfl)
    have htruth : Guard.truth active (ts ++ .keyword .or :: us) =
        (termTruth active ts || Guard.truth active us) := by
      rw [truth_eq_any, hwhole.pieces_append, truth_eq_any]
      rfl
    calc Guard.truth active (ts ++ .keyword .or :: us)
        = (termTruth active ts || Guard.truth active us) := htruth
      _ = (l.holds active || r.holds active) := congrArg₂ _ ihl ihr

/-- Evaluating what a guard text is read to gives the truth of its tokens, whichever names are
active. -/
theorem holds_eq_truth_of_tokens (text : String) (e : Expr) (h : parse text = .ok e) :
    e.holds active = truth active (lex text) :=
  ((parse_eq_ok_iff.mp h).truth_eq active).symm

/-- The second of the terms holds, by a factor that negates a group. -/
theorem holds_eq_truth_of_tokens_negated :
    let text := "a and b or not (c OR d) and e and b"
    let active := fun name => ["b", "e"].contains name
    ∃ e, parse text = .ok e ∧ e.holds active = truth active (lex text) ∧
      e.holds active = true := by
  intro text active
  have h : parse text = .ok (.or (.and (.name "a") (.name "b"))
      (.and (.and (.not (.or (.name "c") (.name "d"))) (.name "e")) (.name "b"))) := by
    cbv
  exact ⟨_, h, holds_eq_truth_of_tokens active text _ h, by decide⟩

end GuardedText.Guard
