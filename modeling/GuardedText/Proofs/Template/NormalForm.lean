import GuardedText.Proofs.Guard.Printing
import GuardedText.Proofs.Template.Draft
import GuardedText.Proofs.Text.Lines

/-! The block trees that compiling gives. Text is merged, so that no two text blocks stand side by
side and none is empty; every guard is a tree over names; and the guard that always holds is left
to a branch that comes last and is not the first. Every step keeps what it has read so far in this
form, and no document is without blocks. -/

namespace GuardedText.Template

/-- A line that is stored as it is read: one line, without its line end, and no directive. -/
structure TextLine (p line : String) : Prop where
  unbroken : '\n' ∉ line.toList
  stripped : line.toList.getLast? ≠ some '\r'
  plain : ¬ p.toList <+: Text.trim line.toList

/-- A text that consists of ended lines. -/
def StoredText (p s : String) : Prop :=
  ∃ lines, s = Text.endLines lines ∧ ∀ line ∈ lines, TextLine p line

/-- A name that can stand in a guard on a line. -/
def GuardName (s : String) : Prop :=
  Guard.IsName s ∧ '\n' ∉ s.toList

def Block.isText : Block → Bool
  | .text _ => true
  | .conditional _ => false

def startsWithText (bs : List Block) : Bool :=
  bs.head?.any Block.isText

def endsWithText (bs : List Block) : Bool :=
  bs.getLast?.any Block.isText

mutual

def NormalBlock (p : String) : Block → Prop
  | .text s => s ≠ "" ∧ StoredText p s
  | .conditional branches => NormalBranches p true branches

/-- The branches of a conditional, from its first branch on or after that. -/
def NormalBranches (p : String) (first : Bool) : List (Guard.Expr × List Block) → Prop
  | [] => first = false
  | (guard, body) :: rest =>
    (guard.Named GuardName ∨ guard = .always ∧ first = false ∧ rest = []) ∧
      Normal p body ∧ NormalBranches p false rest

def Normal (p : String) : List Block → Prop
  | [] => True
  | b :: rest => NormalBlock p b ∧ (b.isText = true → startsWithText rest = false) ∧ Normal p rest

end

/-! ### Putting normal blocks together -/

theorem normal_concat {p : String} {bs : List Block} {b : Block} (hbs : Normal p bs)
    (hb : NormalBlock p b) (hends : b.isText = true → endsWithText bs = false) :
    Normal p (bs ++ [b]) := by
  induction bs with
  | nil => exact ⟨hb, fun _ => rfl, trivial⟩
  | cons c bs ih =>
    obtain ⟨hc, hnext, hbs⟩ := hbs
    cases bs with
    | nil =>
      refine ⟨hc, fun ht => ?_, hb, fun _ => rfl, trivial⟩
      have hfree : ¬ b.isText = true := fun hbt => by
        have := hends hbt
        simp [endsWithText, ht] at this
      simpa [startsWithText] using hfree
    | cons d bs => exact ⟨hc, hnext, ih hbs hends⟩

theorem endsWithText_concat (bs : List Block) (b : Block) :
    endsWithText (bs ++ [b]) = b.isText := by
  simp [endsWithText]

/-- Branches that can be followed by others. -/
def Guarded (p : String) (branches : List Branch) : Prop :=
  ∀ b ∈ branches, b.1.Named GuardName ∧ Normal p b.2

theorem guarded_concat {p : String} {branches : List Branch} {guard : Guard.Expr}
    {body : List Block} (h : Guarded p branches) (hguard : guard.Named GuardName)
    (hbody : Normal p body) : Guarded p (branches ++ [(guard, body)]) := by
  intro b hb
  rcases List.mem_append.mp hb with hb | hb
  · exact h b hb
  · rw [List.mem_singleton.mp hb]
    exact ⟨hguard, hbody⟩

theorem normalBranches_concat {p : String} {first : Bool} {branches : List Branch}
    {guard : Guard.Expr} {body : List Block} (h : Guarded p branches)
    (hguard : guard.Named GuardName ∨ guard = .always ∧ (first = false ∨ branches ≠ []))
    (hbody : Normal p body) : NormalBranches p first (branches ++ [(guard, body)]) := by
  induction branches generalizing first with
  | nil => exact ⟨hguard.imp_right fun ⟨ha, hf⟩ => ⟨ha, by simpa using hf, rfl⟩, hbody, rfl⟩
  | cons b branches ih =>
    obtain ⟨hb, hrest⟩ := List.forall_mem_cons.mp h
    exact ⟨.inl hb.1, hb.2, ih hrest (hguard.imp_right fun ⟨ha, _⟩ => ⟨ha, .inl rfl⟩)⟩

theorem StoredText.addLine {p s line : String} (hs : StoredText p s) (hline : TextLine p line) :
    StoredText p (s ++ line ++ Text.lineBreak) := by
  obtain ⟨lines, rfl, hlines⟩ := hs
  refine ⟨lines ++ [line], ?_, fun l hl => ?_⟩
  · rw [Text.endLines_append, String.append_assoc]
    simp [Text.endLines]
  · rcases List.mem_append.mp hl with hl | hl
    · exact hlines l hl
    · rwa [List.mem_singleton.mp hl]

/-! ### Every step keeps the form -/

/-- What was read of an open conditional can become part of a normal tree. -/
structure Opening.Sound (p : String) (o : Opening) : Prop where
  branches : Guarded p o.branches
  guard : o.guard.Named GuardName ∨ o.guard = .always ∧ o.fallback = true ∧ o.branches ≠ []
  before : Normal p o.before

theorem Opening.Sound.finished {p : String} {o : Opening} {level : List Block} (ho : o.Sound p)
    (hf : o.fallback = false) (hlevel : Normal p level) : Guarded p (o.finished level) :=
  guarded_concat ho.branches (ho.guard.resolve_right fun h => by simp [hf] at h) hlevel

theorem Opening.Sound.closed {p : String} {o : Opening} {level : List Block} (ho : o.Sound p)
    (hlevel : Normal p level) : Normal p (o.closed level) := by
  have hguard : o.guard.Named GuardName ∨
      o.guard = .always ∧ (true = false ∨ o.branches ≠ []) :=
    ho.guard.imp_right fun ⟨ha, _, hne⟩ => ⟨ha, .inr hne⟩
  have hb : NormalBlock p (.conditional (o.finished level)) :=
    normalBranches_concat ho.branches hguard hlevel
  exact normal_concat ho.before hb (by simp [Block.isText])

namespace Draft

structure Sound (p : String) (s : Draft) : Prop where
  blocks : Normal p s.blocks
  ends : endsWithText s.blocks = false
  text : StoredText p s.text
  opened : ∀ o ∈ s.opened, o.Sound p

theorem Sound.empty (p : String) : Sound p empty where
  blocks := trivial
  ends := rfl
  text := ⟨[], rfl, by simp⟩
  opened := by simp [Draft.empty]

theorem Sound.level {p : String} {s : Draft} (h : s.Sound p) : Normal p s.level := by
  rw [Draft.level, flush]
  split
  · rw [List.append_nil]
    exact h.blocks
  · next hne => exact normal_concat h.blocks ⟨hne, h.text⟩ fun _ => h.ends

/-- A draft that has just begun a branch. -/
theorem Sound.begun {p : String} {n : Nat} {o : Opening} {outer : List Opening} (ho : o.Sound p)
    (houter : ∀ o ∈ outer, o.Sound p) : Sound p ⟨n, [], "", o :: outer⟩ where
  blocks := trivial
  ends := rfl
  text := ⟨[], rfl, by simp⟩
  opened := List.forall_mem_cons.mpr ⟨ho, houter⟩

theorem textLine_of_ofLine {p raw : String} {n : Nat} (hraw : '\n' ∉ raw.toList)
    (h : Directive.ofLine p (Text.dropLineEnd raw) n = .ok none) :
    TextLine p (Text.dropLineEnd raw) where
  unbroken := fun hc => hraw (Text.mem_of_mem_dropLineEnd hc)
  stripped := fun hc => absurd (Text.getLast_dropLineEnd _ hc) (by decide)
  plain := Directive.ofLine_eq_none_iff.mp h

theorem named_of_ofLine {p raw : String} {n : Nat} {d : Directive Nat} {guard : Guard.Expr}
    (hraw : '\n' ∉ raw.toList)
    (h : Directive.ofLine p (Text.dropLineEnd raw) n = .ok (some d))
    (hg : Guard.parse d.argument = .ok guard) : guard.Named GuardName := by
  refine (Guard.named_of_parse hg).mono fun s hs => ⟨hs.1, fun hc => hraw ?_⟩
  exact Text.mem_of_mem_dropLineEnd (Directive.mem_of_mem_argument h (hs.2 _ hc))

theorem Sound.step {p raw : String} {s s' : Draft} (hs : s.Sound p) (hraw : '\n' ∉ raw.toList)
    (h : Step p raw s s') : s'.Sound p := by
  cases h with
  | text h =>
    exact ⟨hs.blocks, hs.ends, hs.text.addLine (textLine_of_ofLine hraw h), hs.opened⟩
  | start h hk hg =>
    exact .begun ⟨by simp [Guarded], .inl (named_of_ofLine hraw h hg), hs.level⟩ hs.opened
  | elif h hk hg ho hf =>
    obtain ⟨hopen, houter⟩ := List.forall_mem_cons.mp (ho ▸ hs.opened)
    exact .begun
      ⟨hopen.finished hf hs.level, .inl (named_of_ofLine hraw h hg), hopen.before⟩ houter
  | otherwise h hk ho hf =>
    obtain ⟨hopen, houter⟩ := List.forall_mem_cons.mp (ho ▸ hs.opened)
    exact .begun
      ⟨hopen.finished hf hs.level, .inr ⟨rfl, rfl, by simp [Opening.finished]⟩, hopen.before⟩
      houter
  | finish h hk ho =>
    obtain ⟨hopen, houter⟩ := List.forall_mem_cons.mp (ho ▸ hs.opened)
    refine ⟨hopen.closed hs.level, ?_, ⟨[], rfl, by simp⟩, houter⟩
    rw [Opening.closed, endsWithText_concat]
    rfl

theorem Sound.run {p : String} {s s' : Draft} {lines : List String} (hs : s.Sound p)
    (hlines : ∀ line ∈ lines, '\n' ∉ line.toList) (h : run p s lines = .ok s') :
    s'.Sound p := by
  refine run_preserves (fun raw hraw s s' hs hstep => ?_) hs h
  exact hs.step (hlines raw hraw) hstep

/-! ### Every line leaves something -/

theorem Step.begun {p raw : String} {s s' : Draft} (h : Step p raw s s') :
    s'.level ≠ [] ∨ s'.opened ≠ [] := by
  cases h with
  | text _ => exact .inl (by simp [level, addLine, flush, Text.lineBreak])
  | start | elif | otherwise => exact .inr (by simp)
  | finish _ _ _ => exact .inl (by simp [Opening.closed])

theorem begun_of_run {p : String} {s s' : Draft} {lines : List String} (hne : lines ≠ [])
    (h : run p s lines = .ok s') : s'.level ≠ [] ∨ s'.opened ≠ [] := by
  induction lines generalizing s with
  | nil => exact absurd rfl hne
  | cons raw lines ih =>
    obtain ⟨mid, hstep, hrun⟩ := bind_eq_ok h
    cases lines with
    | nil =>
      cases hrun
      exact (Step.of_step hstep).begun
    | cons next lines => exact ih (by simp) hrun

end Draft

theorem normal_of_compileLines {p : String} {lines : List String} {t : Template}
    (hlines : ∀ line ∈ lines, '\n' ∉ line.toList) (h : compileLines p lines = .ok t) :
    Normal p t.blocks := by
  obtain ⟨s, hrun, -, rfl⟩ := Draft.compileLines_eq_ok_iff.mp h
  exact ((Draft.Sound.empty p).run hlines hrun).level

theorem blocks_ne_nil_of_compileLines {p : String} {lines : List String} {t : Template}
    (hne : lines ≠ []) (h : compileLines p lines = .ok t) : t.blocks ≠ [] := by
  obtain ⟨s, hrun, hopened, rfl⟩ := Draft.compileLines_eq_ok_iff.mp h
  exact (Draft.begun_of_run hne hrun).resolve_right fun hne => hne hopened

end GuardedText.Template
