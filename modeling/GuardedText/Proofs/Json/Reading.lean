import GuardedText.Json
import GuardedText.Proofs.Text.Units

/-! JSON texts read back. A text is cut into tokens, with blanks between them, and the tokens build
the document with the arrays and objects that are still open on a stack. What numerals mean is left
open: they are words, read by whatever function is given. A document written on several lines is
read back as it was. -/

namespace GuardedText.Json

/-- Tokens of a JSON text. A word is `null`, a truth value or a numeral. -/
inductive Token where
  | arrayStart | arrayEnd | objectStart | objectEnd | colon | comma
  | text (s : String)
  | word (cs : List Char)

/-! ### Cutting a text into tokens -/

def punctuation? (c : Char) : Option Token :=
  if c = '[' then some .arrayStart
  else if c = ']' then some .arrayEnd
  else if c = '\x7b' then some .objectStart
  else if c = '\x7d' then some .objectEnd
  else if c = ':' then some .colon
  else if c = ',' then some .comma
  else none

/-- The four characters that may stand between tokens. -/
def isBlank (c : Char) : Bool :=
  c = ' ' || c = '\t' || c = '\n' || c = '\r'

def isWordChar (c : Char) : Bool :=
  c.isAlphanum || c = '-' || c = '+' || c = '.'

/-- The character that stands for itself or another one after a backslash. -/
def escaped? (c : Char) : Option Char :=
  [('"', '"'), ('\\', '\\'), ('/', '/'), ('b', '\x08'), ('f', '\x0c'), ('n', '\n'), ('r', '\r'),
    ('t', '\t')].lookup c

/-- The value of a hexadecimal digit. -/
def hexValue? (c : Char) : Option Nat :=
  if '0' ≤ c ∧ c ≤ '9' then some (c.toNat - 0x30)
  else if 'a' ≤ c ∧ c ≤ 'f' then some (c.toNat - 0x57)
  else if 'A' ≤ c ∧ c ≤ 'F' then some (c.toNat - 0x37)
  else none

/-- What a character stands in. Of a word the characters so far are kept, last first; of a string
the 16-bit units so far, and within an escape by number how many digits are missing and the number
so far. -/
inductive Place where
  | between
  | word (done : List Char)
  | text (units : List Nat)
  | escape (units : List Nat)
  | number (units : List Nat) (missing code : Nat)

/-- The tokens that a character between two tokens is, and what the next one stands in. -/
def start (c : Char) : Option (List Token × Place) :=
  if isWordChar c then some ([], .word [c])
  else if isBlank c then some ([], .between)
  else if c = '"' then some ([], .text [])
  else (punctuation? c).map fun t => ([t], .between)

/-- The tokens that end at a character or are it, and what the next one stands in. -/
def step (place : Place) (c : Char) : Option (List Token × Place) :=
  match place with
  | .between => start c
  | .word done =>
    if isWordChar c then some ([], .word (c :: done))
    else (start c).map fun next => (.word done.reverse :: next.1, next.2)
  | .text units =>
    if c = '"' then some ([.text (String.ofList (Text.charsOfUnits units))], .between)
    else if c = '\\' then some ([], .escape units)
    else if c.toNat < 0x20 then none
    else some ([], .text (units ++ Text.unitsOf c))
  | .escape units =>
    if c = 'u' then some ([], .number units 4 0)
    else (escaped? c).map fun d => ([], .text (units ++ Text.unitsOf d))
  | .number units missing code =>
    (hexValue? c).map fun d =>
      if missing ≤ 1 then ([], .text (units ++ [16 * code + d]))
      else ([], .number units (missing - 1) (16 * code + d))

/-- The tokens of a text from within a place. -/
def lexFrom (place : Place) : List Char → Option (List Token)
  | [] =>
    match place with
    | .between => some []
    | .word done => some [.word done.reverse]
    | _ => none
  | c :: rest => (step place c).bind fun next => (lexFrom next.2 rest).map (next.1 ++ ·)

/-! ### Building the document -/

/-- An array or an object that is open: what it holds so far, and the name of the member that is
being read. -/
inductive Open where
  | array (items : List Json)
  | object (members : List (String × Json)) (name : String)

/-- What is to come: a value, the name of a member of an object that holds `members` so far, the
colon after that name, or what follows a value. -/
inductive Stage where
  | value
  | name (members : List (String × Json))
  | colon (members : List (String × Json)) (name : String)
  | after (j : Json)

abbrev State := List Open × Stage

variable (numeral : List Char → Option Number)

def ofWord? (cs : List Char) : Option Json :=
  if cs = "null".toList then some .null
  else if cs = "true".toList then some (.bool true)
  else if cs = "false".toList then some (.bool false)
  else (numeral cs).map .number

/-- Takes one token. Members of one name are all kept. -/
def take : State → Token → Option State
  | (stack, .value), .arrayStart => some (.array [] :: stack, .value)
  | (stack, .value), .objectStart => some (stack, .name [])
  | (stack, .value), .text s => some (stack, .after (.string s))
  | (stack, .value), .word cs => (ofWord? numeral cs).map fun j => (stack, .after j)
  | (.array [] :: stack, .value), .arrayEnd => some (stack, .after (.array []))
  | (stack, .name members), .text s => some (stack, .colon members s)
  | (stack, .name []), .objectEnd => some (stack, .after (.object []))
  | (stack, .colon members s), .colon => some (.object members s :: stack, .value)
  | (.array items :: stack, .after j), .comma => some (.array (items ++ [j]) :: stack, .value)
  | (.array items :: stack, .after j), .arrayEnd =>
    some (stack, .after (.array (items ++ [j])))
  | (.object members s :: stack, .after j), .comma => some (stack, .name (members ++ [(s, j)]))
  | (.object members s :: stack, .after j), .objectEnd =>
    some (stack, .after (.object (members ++ [(s, j)])))
  | _, _ => none

/-- Goes on with the tokens of a text. -/
def resume (s : State) (cs : List Char) : Option State :=
  (lexFrom .between cs).bind (·.foldlM (take numeral) s)

/-- The document that a text is of, if it is one. -/
def read (text : String) : Option Json :=
  match resume numeral ([], .value) text.toList with
  | some ([], .after j) => some j
  | _ => none

/-! ### One token -/

/-- No word goes on here. -/
def Ends (rest : List Char) : Prop :=
  ∀ c ∈ rest.head?, isWordChar c = false

theorem Ends.of_head {c : Char} (h : isWordChar c = false) (rest : List Char) :
    Ends (c :: rest) := by
  intro d hd
  cases hd
  exact h

section Tokens

variable {numeral} {s : State}

/-- A token in front of what is left is taken before that. -/
theorem resume_of_lex {cs rest : List Char} {t : Token}
    (h : lexFrom .between cs = (lexFrom .between rest).map (t :: ·)) :
    resume numeral s cs = (take numeral s t).bind (resume numeral · rest) := by
  rw [resume, h]
  cases htake : take numeral s t with
  | none => cases lexFrom .between rest <;> simp [htake]
  | some s' =>
    rw [Option.bind_some, resume]
    cases lexFrom .between rest <;> simp [htake]

theorem resume_blank {c : Char} (h : start c = some ([], .between)) (rest : List Char) :
    resume numeral s (c :: rest) = resume numeral s rest := by
  have hlex : lexFrom .between (c :: rest) = lexFrom .between rest := by
    simp [lexFrom, step, h]
  rw [resume, hlex, ← resume]

theorem resume_punctuation {c : Char} {t : Token} (h : start c = some ([t], .between))
    (rest : List Char) :
    resume numeral s (c :: rest) = (take numeral s t).bind (resume numeral · rest) := by
  apply resume_of_lex
  simp [lexFrom, step, h]

theorem lexFrom_word {w rest : List Char} (hw : ∀ c ∈ w, isWordChar c = true)
    (hrest : Ends rest) (done : List Char) :
    lexFrom (.word done) (w ++ rest) =
      (lexFrom .between rest).map (.word (done.reverse ++ w) :: ·) := by
  induction w generalizing done with
  | nil =>
    cases rest with
    | nil => simp [lexFrom]
    | cons c rest =>
      have hc : isWordChar c = false := hrest c rfl
      simp only [List.nil_append, List.append_nil, lexFrom, step, hc]
      cases start c <;> simp [Function.comp_def]
  | cons c w ih =>
    obtain ⟨hc, hw⟩ := List.forall_mem_cons.mp hw
    rw [List.cons_append, lexFrom, step, if_pos hc, Option.bind_some, ih hw]
    simp [Function.comp_def]

theorem resume_word {w rest : List Char} (hne : w ≠ []) (hw : ∀ c ∈ w, isWordChar c = true)
    (hrest : Ends rest) :
    resume numeral s (w ++ rest) = (take numeral s (.word w)).bind (resume numeral · rest) := by
  apply resume_of_lex
  obtain ⟨c, w, rfl⟩ := List.exists_cons_of_ne_nil hne
  obtain ⟨hc, hw⟩ := List.forall_mem_cons.mp hw
  rw [List.cons_append, lexFrom, step, start, if_pos hc, Option.bind_some, lexFrom_word hw hrest]
  simp [Function.comp_def]

/-- A word where a value is to come. -/
theorem resume_value {w rest : List Char} {j : Json} (hne : w ≠ [])
    (hw : w.all isWordChar = true) (hj : ofWord? numeral w = some j) (stack : List Open)
    (hrest : Ends rest) :
    resume numeral (stack, .value) (w ++ rest) = resume numeral (stack, .after j) rest := by
  rw [resume_word hne (List.all_eq_true.mp hw) hrest, take, hj, Option.map_some, Option.bind_some]

/-! ### Strings -/

theorem hexValue?_hexDigit : ∀ n < 16, hexValue? (hexDigit n) = some n := by
  decide

theorem lexFrom_escaped {e c : Char} (h : escaped? e = some c) (he : e ≠ 'u') (units : List Nat)
    (rest : List Char) :
    lexFrom (.text units) ('\\' :: e :: rest) =
      lexFrom (.text (units ++ Text.unitsOf c)) rest := by
  simp [lexFrom, step, h, he, Function.comp_def]

/-- An escape by number, with two digits that are not zero. -/
theorem lexFrom_number {m n : Nat} (hm : m < 16) (hn : n < 16) (units : List Nat)
    (rest : List Char) :
    lexFrom (.text units) ('\\' :: 'u' :: '0' :: '0' :: hexDigit m :: hexDigit n :: rest) =
      lexFrom (.text (units ++ [16 * m + n])) rest := by
  have hzero : hexValue? '0' = some 0 := by decide
  simp [lexFrom, step, hzero, hexValue?_hexDigit m hm, hexValue?_hexDigit n hn,
    Function.comp_def]

/-- A character that is written between quotes adds its units, however it is written. -/
theorem lexFrom_escapeChar (units : List Nat) (c : Char) (rest : List Char) :
    lexFrom (.text units) (escapeChar c ++ rest) =
      lexFrom (.text (units ++ Text.unitsOf c)) rest := by
  have hescaped : ∀ e d, escaped? e = some d → e ≠ 'u' → escapeChar d = ['\\', e] →
      lexFrom (.text units) (escapeChar d ++ rest) =
        lexFrom (.text (units ++ Text.unitsOf d)) rest := by
    intro e d hd he hwritten
    rw [hwritten]
    exact lexFrom_escaped hd he units rest
  by_cases hquote : c = '"'
  · exact hquote ▸ hescaped '"' '"' rfl (by decide) rfl
  by_cases hslash : c = '\\'
  · exact hslash ▸ hescaped '\\' '\\' rfl (by decide) rfl
  by_cases hfeed : c = '\n'
  · exact hfeed ▸ hescaped 'n' '\n' rfl (by decide) rfl
  by_cases hreturn : c = '\r'
  · exact hreturn ▸ hescaped 'r' '\r' rfl (by decide) rfl
  by_cases htab : c = '\t'
  · exact htab ▸ hescaped 't' '\t' rfl (by decide) rfl
  by_cases hback : c = '\x08'
  · exact hback ▸ hescaped 'b' '\x08' rfl (by decide) rfl
  by_cases hform : c = '\x0c'
  · exact hform ▸ hescaped 'f' '\x0c' rfl (by decide) rfl
  rw [escapeChar, if_neg hquote, if_neg hslash, if_neg hfeed, if_neg hreturn, if_neg htab,
    if_neg hback, if_neg hform]
  split
  · next hcontrol =>
    have hunits : Text.unitsOf c = [16 * (c.toNat / 16) + c.toNat % 16] := by
      rw [Text.unitsOf, if_pos (by omega), Nat.div_add_mod]
    rw [hunits]
    exact lexFrom_number (by omega) (by omega) units rest
  · next hcontrol => simp [lexFrom, step, hquote, hslash, hcontrol]

theorem resume_quote (t : String) (rest : List Char) :
    resume numeral s ((quote t).toList ++ rest) =
      (take numeral s (.text t)).bind (resume numeral · rest) := by
  have hinside : ∀ (cs : List Char) (units : List Nat),
      lexFrom (.text units) (cs.flatMap escapeChar ++ '"' :: rest) =
        (lexFrom .between rest).map
          (.text (String.ofList (Text.charsOfUnits (units ++ cs.flatMap Text.unitsOf))) :: ·) := by
    intro cs
    induction cs with
    | nil => simp [lexFrom, step]
    | cons c cs ih =>
      intro units
      rw [List.flatMap_cons, List.append_assoc, lexFrom_escapeChar, ih, List.flatMap_cons,
        List.append_assoc]
  apply resume_of_lex
  have hquote : (quote t).toList ++ rest = '"' :: (t.toList.flatMap escapeChar ++ '"' :: rest) := by
    simp [quote]
  have hopen : step .between '"' = some ([], .text []) := rfl
  rw [hquote, lexFrom, hopen, Option.bind_some, hinside, List.nil_append, Text.charsOfUnits_flatMap,
    String.ofList_toList]
  simp [Function.comp_def]

end Tokens

/-! ### Arrays and objects -/

section Entries

variable {numeral}

theorem resume_indentation (s : State) (depth : Nat) (rest : List Char) :
    resume numeral s ((indentation depth).toList ++ rest) = resume numeral s rest := by
  rw [indentation, String.toList_ofList]
  induction 2 * depth with
  | zero => rfl
  | succ n ih => rw [List.replicate_succ, List.cons_append, resume_blank rfl, ih]

/-- The states in which an array or an object is read from `s` on: before an entry, behind it, and
when all is read. -/
structure Entries (numeral : List Char → Option Number) {α : Type} (opening closing : Token)
    (s : State) (before : List α → State) (behind : List α → α → State)
    (closed : List α → State) : Prop where
  opened : take numeral s opening = some (before [])
  next : ∀ done x, take numeral (behind done x) .comma = some (before (done ++ [x]))
  last : ∀ done x, take numeral (behind done x) closing = some (closed (done ++ [x]))
  empty : take numeral (before []) closing = some (closed [])

theorem entries_array (stack : List Open) :
    Entries numeral .arrayStart .arrayEnd (stack, .value)
      (fun done => (.array done :: stack, .value)) (fun done j => (.array done :: stack, .after j))
      fun items => (stack, .after (.array items)) :=
  ⟨rfl, fun _ _ => rfl, fun _ _ => rfl, rfl⟩

theorem entries_object (stack : List Open) :
    Entries numeral .objectStart .objectEnd (stack, .value) (fun done => (stack, .name done))
      (fun done m => (.object done m.1 :: stack, .after m.2))
      fun members => (stack, .after (.object members)) :=
  ⟨rfl, fun _ _ => rfl, fun _ _ => rfl, rfl⟩

variable {α : Type} {opening closing : Token} {s : State} {before : List α → State}
  {behind : List α → α → State} {closed : List α → State} {line : α → String}

/-- Lines with one entry each lead behind the last of them. -/
theorem Entries.resume_lines (h : Entries numeral opening closing s before behind closed)
    {xs : List α} (hne : xs ≠ [])
    (hline : ∀ x ∈ xs, ∀ done rest, Ends rest →
      resume numeral (before done) ((line x).toList ++ rest) = resume numeral (behind done x) rest)
    (depth : Nat) (done : List α) {rest : List Char} (hrest : Ends rest) :
    resume numeral (before done)
        ((",\n".intercalate ((xs.map line).map (indentation depth ++ ·))).toList ++ rest) =
      resume numeral (behind (done ++ xs.dropLast) (xs.getLast hne)) rest := by
  induction xs generalizing done with
  | nil => exact absurd rfl hne
  | cons x xs ih =>
    obtain ⟨hx, hxs⟩ := List.forall_mem_cons.mp hline
    cases xs with
    | nil => simp [resume_indentation, hx done rest hrest]
    | cons y ys =>
      have hnext := ih (by simp) hxs (done ++ [x])
      have htext :
          (",\n".intercalate (((x :: y :: ys).map line).map (indentation depth ++ ·))).toList ++
          rest = (indentation depth).toList ++ ((line x).toList ++ ',' :: '\n' ::
            ((",\n".intercalate (((y :: ys).map line).map (indentation depth ++ ·))).toList ++
              rest)) := by
        simp
      rw [htext, resume_indentation, hx done _ (Ends.of_head rfl _), resume_punctuation rfl, h.next,
        Option.bind_some, resume_blank rfl, hnext, List.append_assoc]
      rfl

/-- What stands between brackets is read as its entries. -/
theorem Entries.resume_bracket (h : Entries numeral opening closing s before behind closed)
    {o c : Char} (ho : start o = some ([opening], .between))
    (hc : start c = some ([closing], .between)) {left right : String} (hleft : left.toList = [o])
    (hright : right.toList = [c]) {xs : List α}
    (hline : ∀ x ∈ xs, ∀ done rest, Ends rest →
      resume numeral (before done) ((line x).toList ++ rest) = resume numeral (behind done x) rest)
    (depth : Nat) (rest : List Char) :
    resume numeral s ((bracket left right depth (xs.map line)).toList ++ rest) =
      resume numeral (closed xs) rest := by
  rw [bracket]
  by_cases hxs : xs = []
  · have htext : (left ++ right).toList ++ rest = o :: c :: rest := by
      simp [hleft, hright]
    rw [hxs, List.map_nil, List.isEmpty_nil, if_pos rfl, htext, resume_punctuation ho, h.opened,
      Option.bind_some, resume_punctuation hc, h.empty, Option.bind_some]
  · have hlines : (xs.map line).isEmpty = false := by simpa using hxs
    have htext : (left ++ "\n" ++
          ",\n".intercalate ((xs.map line).map (indentation (depth + 1) ++ ·)) ++ "\n" ++
          indentation depth ++ right).toList ++ rest =
        o :: '\n' ::
          ((",\n".intercalate ((xs.map line).map (indentation (depth + 1) ++ ·))).toList ++
            '\n' :: ((indentation depth).toList ++ c :: rest)) := by
      simp [hleft, hright]
    rw [hlines, if_neg Bool.false_ne_true, htext, resume_punctuation ho, h.opened,
      Option.bind_some, resume_blank rfl,
      h.resume_lines hxs hline (depth + 1) [] (Ends.of_head rfl _), resume_blank rfl,
      resume_indentation, resume_punctuation hc, h.last, Option.bind_some, List.nil_append,
      List.dropLast_concat_getLast]

end Entries

/-! ### Documents -/

/-- A document without numbers. -/
inductive Numberless : Json → Prop
  | null : Numberless .null
  | bool (b : Bool) : Numberless (.bool b)
  | string (s : String) : Numberless (.string s)
  | array {items : List Json} (h : ∀ j ∈ items, Numberless j) : Numberless (.array items)
  | object {members : List (String × Json)} (h : ∀ m ∈ members, Numberless m.2) :
    Numberless (.object members)

theorem indentedItems_eq_map (depth : Nat) (items : List Json) :
    indentedItems depth items = items.map (indented depth) := by
  induction items with
  | nil => rw [indentedItems, List.map_nil]
  | cons j items ih => rw [indentedItems, ih, List.map_cons]

theorem indentedMembers_eq_map (depth : Nat) (members : List (String × Json)) :
    indentedMembers depth members =
      members.map fun m => quote m.1 ++ ": " ++ indented depth m.2 := by
  induction members with
  | nil => rw [indentedMembers, List.map_nil]
  | cons m members ih =>
    obtain ⟨name, j⟩ := m
    rw [indentedMembers, ih, List.map_cons]

/-- A document is read from where a value is to come, and what follows it is read behind it. -/
theorem Numberless.resume_indented {j : Json} (h : j.Numberless) (depth : Nat) (stack : List Open)
    {rest : List Char} (hrest : Ends rest) :
    resume numeral (stack, .value) ((j.indented depth).toList ++ rest) =
      resume numeral (stack, .after j) rest := by
  induction h generalizing depth stack rest with
  | null =>
    rw [indented]
    exact resume_value (by decide) (by decide) (by simp [ofWord?]) stack hrest
  | bool b =>
    cases b with
    | true =>
      rw [indented, if_pos rfl]
      exact resume_value (by decide) (by decide) (by simp [ofWord?]) stack hrest
    | false =>
      rw [indented, if_neg Bool.false_ne_true]
      exact resume_value (by decide) (by decide) (by simp [ofWord?]) stack hrest
  | string s => rw [indented, resume_quote, take, Option.bind_some]
  | array h ih =>
    rw [indented, indentedItems_eq_map]
    exact (entries_array stack).resume_bracket (o := '[') (c := ']') rfl rfl rfl rfl
      (fun j hj done rest hrest => ih j hj (depth + 1) (.array done :: stack) hrest) depth rest
  | object h ih =>
    rw [indented, indentedMembers_eq_map]
    refine (entries_object stack).resume_bracket (o := '\x7b') (c := '\x7d') rfl rfl rfl rfl
      (fun m hm done rest hrest => ?_) depth rest
    have htext : (quote m.1 ++ ": " ++ m.2.indented (depth + 1)).toList ++ rest =
        (quote m.1).toList ++ ':' :: ' ' :: ((m.2.indented (depth + 1)).toList ++ rest) := by
      simp
    rw [htext, resume_quote, take, Option.bind_some, resume_punctuation rfl, take,
      Option.bind_some, resume_blank rfl, ih m hm (depth + 1) _ hrest]

/-- A document without numbers is read back, with a line break behind it. -/
theorem read_indented {j : Json} (h : j.Numberless) :
    read numeral (j.indented 0 ++ "\n") = some j := by
  have hread := h.resume_indented numeral 0 [] (Ends.of_head (c := '\n') rfl [])
  have hend : resume numeral ([], .after j) ['\n'] = some ([], .after j) := rfl
  rw [read, String.toList_append, show ("\n" : String).toList = ['\n'] from rfl, hread, hend]

/-- A comma that nothing follows is refused. -/
example : (read (fun _ => none) "[null,]").isNone = true := by
  decide

end GuardedText.Json
