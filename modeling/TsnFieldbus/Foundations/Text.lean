import Mathlib.Data.List.DropRight
import Mathlib.Tactic

/-!
# Lines, Words and Fields

Text as a list of characters, read the way the standard library of Rust does: line by line, word
by word, and with numbers in decimal. A log is text to which several writers add lines; a reader
that looks for a marker sees the lines of one of them.

- `words_unwords`: words written with blanks between them are read back.
- `parseUnsigned_toDigits`: numbers that fit are read back.
- `foldl_lines_logText`: what a reader makes of a log.
- `field_items`, `not_infix_items`: what is read from a line of keys with their values.
-/

namespace TsnFieldbus.Foundations

/-! ## Words -/

/-- The characters with the Unicode property `White_Space`. -/
def isWhitespace (c : Char) : Bool :=
  let n := c.toNat
  (9 ≤ n && n ≤ 13) || n == 32 || n == 0x85 || n == 0xA0 || n == 0x1680 ||
    (0x2000 ≤ n && n ≤ 0x200A) || n == 0x2028 || n == 0x2029 || n == 0x202F || n == 0x205F ||
    n == 0x3000

/-- `split_whitespace`. -/
def words (text : List Char) : List (List Char) :=
  (text.splitOnP isWhitespace).filter (fun word => !word.isEmpty)

/-- Words with one blank between each two of them. -/
def unwords : List (List Char) → List Char
  | [] => []
  | [word] => word
  | word :: next :: rest => word ++ ' ' :: unwords (next :: rest)

/-- A word has characters, and none of them is white space. -/
def IsWord (word : List Char) : Prop :=
  word ≠ [] ∧ ∀ c ∈ word, isWhitespace c = false

instance (word : List Char) : Decidable (IsWord word) :=
  @instDecidableAnd _ _ inferInstance (List.decidableBAll _ word)

theorem IsWord.append {front back : List Char} (hfront : IsWord front)
    (hback : ∀ c ∈ back, isWhitespace c = false) : IsWord (front ++ back) :=
  ⟨List.append_ne_nil_of_left_ne_nil hfront.1 back,
    fun c hmem => (List.mem_append.mp hmem).elim (hfront.2 c) (hback c)⟩

theorem words_append_cons {word : List Char} (h : IsWord word) {c : Char}
    (hc : isWhitespace c = true) (rest : List Char) :
    words (word ++ c :: rest) = word :: words rest := by
  rw [words, List.splitOnP_append_cons_of_forall_mem h.2 c hc, List.filter_cons_of_pos]
  · rfl
  · simpa using h.1

theorem words_of_isWord {word : List Char} (h : IsWord word) : words word = [word] := by
  rw [words, List.splitOnP_eq_singleton h.2, List.filter_cons_of_pos]
  · rfl
  · simpa using h.1

/-- Words are read back. -/
theorem words_unwords {ws : List (List Char)} (h : ∀ word ∈ ws, IsWord word) :
    words (unwords ws) = ws := by
  induction ws with
  | nil => rfl
  | cons word rest ih =>
    rw [List.forall_mem_cons] at h
    cases rest with
    | nil => exact words_of_isWord h.1
    | cons next rest => rw [unwords, words_append_cons h.1 rfl, ih h.2]

/-- Where there is no other white space, a line of words has no line break. -/
theorem mem_unwords {ws : List (List Char)} {c : Char} (h : c ∈ unwords ws) :
    c = ' ' ∨ ∃ word ∈ ws, c ∈ word := by
  induction ws with
  | nil => cases h
  | cons word rest ih =>
    cases rest with
    | nil => exact .inr ⟨word, List.mem_singleton_self word, h⟩
    | cons next rest =>
      rw [unwords] at h
      rcases List.mem_append.mp h with hword | hrest
      · exact .inr ⟨word, List.mem_cons_self, hword⟩
      · rcases List.mem_cons.mp hrest with hblank | hrest
        · exact .inl hblank
        · rcases ih hrest with hblank | ⟨other, hmem, hc⟩
          · exact .inl hblank
          · exact .inr ⟨other, List.mem_cons_of_mem _ hmem, hc⟩

theorem not_mem_unwords {ws : List (List Char)} (h : ∀ word ∈ ws, IsWord word) {c : Char}
    (hc : isWhitespace c = true) (hblank : c ≠ ' ') : c ∉ unwords ws := by
  intro hmem
  rcases mem_unwords hmem with heq | ⟨word, hword, hin⟩
  · exact hblank heq
  · rw [(h word hword).2 c hin] at hc
    cases hc

theorem unwords_cons_of_ne_nil (word : List Char) {rest : List (List Char)} (h : rest ≠ []) :
    unwords (word :: rest) = word ++ ' ' :: unwords rest := by
  cases rest with
  | nil => exact absurd rfl h
  | cons next rest => rfl

theorem prefix_unwords (ws after : List (List Char)) : unwords ws <+: unwords (ws ++ after) := by
  induction ws with
  | nil => exact List.nil_prefix
  | cons word ws ih =>
    cases ws with
    | nil =>
      cases after with
      | nil => exact List.prefix_rfl
      | cons next after => exact List.prefix_append _ _
    | cons next ws =>
      change word ++ ' ' :: unwords (next :: ws) <+: word ++ ' ' :: unwords (next :: ws ++ after)
      exact (List.prefix_append_right_inj word).mpr (List.cons_prefix_cons.mpr ⟨rfl, ih⟩)

/-- Words next to each other are part of the line. -/
theorem unwords_infix (before : List (List Char)) {ws : List (List Char)} (hne : ws ≠ [])
    (after : List (List Char)) : unwords ws <:+: unwords (before ++ ws ++ after) := by
  induction before with
  | nil => exact (prefix_unwords ws after).isInfix
  | cons word before ih =>
    have hrest : before ++ ws ++ after ≠ [] := by simp [hne]
    rw [List.cons_append, List.cons_append, unwords_cons_of_ne_nil word hrest]
    exact List.infix_append_of_infix_right (List.infix_cons ih)

theorem infix_unwords_of_mem {ws : List (List Char)} {word : List Char} (h : word ∈ ws) :
    word <:+: unwords ws := by
  obtain ⟨before, after, rfl⟩ := List.append_of_mem h
  have hcontained := unwords_infix before (List.cons_ne_nil word []) after
  rwa [List.append_assoc, List.singleton_append] at hcontained

/-- A part without the separator lies on one side of it. -/
theorem infix_append_cons {α : Type*} {part front back : List α} {c : α} (hpart : c ∉ part)
    (h : part <:+: front ++ c :: back) : part <:+: front ∨ part <:+: back := by
  have hstart {rest : List α} (hrest : rest <+: c :: back) (hsub : rest ⊆ part) : rest = [] := by
    cases rest with
    | nil => rfl
    | cons d rest =>
      rw [(List.cons_prefix_cons.mp hrest).1] at hsub
      exact absurd (hsub List.mem_cons_self) hpart
  rcases List.infix_append_iff.mp h with hfront | hback | ⟨left, right, rfl, hleft, hright⟩
  · exact .inl hfront
  · rcases List.infix_cons_iff.mp hback with hbegins | hback
    · rw [hstart hbegins (List.Subset.refl part)]
      exact .inl List.nil_infix
    · exact .inr hback
  · rw [hstart hright (List.subset_append_right left right), List.append_nil]
    exact .inl hleft.isInfix

/-- What has no blank in it and is part of a line is part of one of its words. -/
theorem infix_of_infix_unwords {ws : List (List Char)} {part : List Char} (hblank : ' ' ∉ part)
    (hne : part ≠ []) (h : part <:+: unwords ws) : ∃ word ∈ ws, part <:+: word := by
  induction ws with
  | nil => exact absurd (List.infix_nil.mp h) hne
  | cons word rest ih =>
    cases rest with
    | nil => exact ⟨word, List.mem_singleton_self word, h⟩
    | cons next rest =>
      rcases infix_append_cons hblank h with hword | hrest
      · exact ⟨word, List.mem_cons_self, hword⟩
      · obtain ⟨other, hmem, hother⟩ := ih hrest
        exact ⟨other, List.mem_cons_of_mem _ hmem, hother⟩

/-! ## Numbers -/

/-- A leading plus sign is allowed. -/
def dropPlus : List Char → List Char
  | '+' :: digits => digits
  | text => text

/-- `parse` of an unsigned integer type with values below the bound. -/
def parseUnsigned (bound : ℕ) (text : List Char) : Option ℕ :=
  let digits := dropPlus text
  if digits ≠ [] ∧ digits.all Char.isDigit = true then
    let value := Nat.ofDigitChars 10 digits 0
    if value < bound then some value else none
  else none

theorem isDigit_of_mem {n : ℕ} {c : Char} (h : c ∈ Nat.toDigits 10 n) : c.isDigit = true :=
  Nat.isDigit_of_mem_toDigits (by decide) (le_refl 10) h

theorem isWhitespace_of_isDigit {c : Char} (h : c.isDigit = true) : isWhitespace c = false := by
  have hrange : 48 ≤ c.toNat ∧ c.toNat ≤ 57 := by
    simp only [Char.isDigit, Bool.and_eq_true, decide_eq_true_eq] at h
    exact ⟨h.1, h.2⟩
  simp only [isWhitespace, Bool.or_eq_false_iff, Bool.and_eq_false_iff, beq_eq_false_iff_ne,
    decide_eq_false_iff_not]
  omega

/-- A number is read back if it fits. -/
theorem parseUnsigned_toDigits {bound n : ℕ} (h : n < bound) :
    parseUnsigned bound (Nat.toDigits 10 n) = some n := by
  have hsign : dropPlus (Nat.toDigits 10 n) = Nat.toDigits 10 n := by
    unfold dropPlus
    split
    · rename_i digits hplus
      have hdigit := @isDigit_of_mem n '+' (hplus ▸ List.mem_cons_self)
      cases hdigit
    · rfl
  rw [parseUnsigned, hsign,
    if_pos ⟨Nat.toDigits_ne_nil, List.all_eq_true.mpr fun c => isDigit_of_mem⟩,
    Nat.ofDigitChars_ten_toDigits, if_pos h]

/-! ## Fields -/

/-- `strip_prefix`. -/
def stripPrefix (key text : List Char) : Option (List Char) := key.isPrefixOf? text

theorem stripPrefix_append (key value : List Char) :
    stripPrefix key (key ++ value) = some value := by
  induction key with
  | nil => rfl
  | cons c key ih =>
    rw [stripPrefix] at ih
    rw [stripPrefix, List.cons_append, List.isPrefixOf?, if_pos (beq_self_eq_true c), ih]

theorem prefix_of_stripPrefix {key text value : List Char}
    (h : stripPrefix key text = some value) : key <+: text := by
  induction key generalizing text with
  | nil => exact List.nil_prefix
  | cons c key ih =>
    cases text with
    | nil => cases h
    | cons d text =>
      rw [stripPrefix, List.isPrefixOf?] at h
      split at h
      · rename_i hsame
        exact List.cons_prefix_cons.mpr ⟨eq_of_beq hsame, ih h⟩
      · cases h

/-- The first word of the line that gives the key a value that can be parsed; commas behind a
word do not count. -/
def field {α : Type*} (key : List Char) (parse : List Char → Option α) (line : List Char) :
    Option α :=
  (words line).findSome? fun word =>
    (stripPrefix key (word.rdropWhile (· == ','))).bind parse

/-- A key that no word begins with is not read. -/
theorem field_unwords_eq_none {α : Type*} {key : List Char} {parse : List Char → Option α}
    {ws : List (List Char)} (hwords : ∀ word ∈ ws, IsWord word)
    (h : ∀ word ∈ ws, ¬ key <+: word) : field key parse (unwords ws) = none := by
  rw [field, words_unwords hwords]
  apply List.findSome?_eq_none_iff.mpr
  intro word hmem
  cases hstrip : stripPrefix key (word.rdropWhile (· == ',')) with
  | none => rfl
  | some value =>
    have hkey := (prefix_of_stripPrefix hstrip).trans (List.rdropWhile_prefix _ word)
    exact absurd hkey (h word hmem)

/-- Reading a field from a line of words, when no word before it begins with its key. -/
theorem field_unwords {α : Type*} {key value : List Char} {parse : List Char → Option α} {x : α}
    {before after : List (List Char)}
    (hwords : ∀ word ∈ before ++ (key ++ value) :: after, IsWord word)
    (hbefore : ∀ word ∈ before, ¬ key <+: word) (hvalue : value ≠ [])
    (hcomma : value.getLast? ≠ some ',') (hparse : parse value = some x) :
    field key parse (unwords (before ++ (key ++ value) :: after)) = some x := by
  have hpassed : field key parse (unwords before) = none :=
    field_unwords_eq_none (fun word hmem => hwords word (List.mem_append_left _ hmem)) hbefore
  rw [field, words_unwords fun word hmem => hwords word (List.mem_append_left _ hmem)] at hpassed
  have hkept : (key ++ value).rdropWhile (· == ',') = key ++ value := by
    apply List.rdropWhile_eq_self_iff.mpr
    intro hne hlast
    rw [List.getLast_append_of_right_ne_nil _ _ hvalue, beq_iff_eq] at hlast
    exact hcomma ((List.getLast?_eq_some_getLast hvalue).trans (congrArg some hlast))
  rw [field, words_unwords hwords, List.findSome?_append, hpassed, Option.none_or,
    List.findSome?_cons, hkept, stripPrefix_append, Option.bind_some, hparse]

/-! ## Keys and values -/

/-- A word of a report: a key with a value behind it, or a word without a value. -/
structure Item where
  key : List Char
  value : List Char

/-- The word. -/
def Item.word (item : Item) : List Char := item.key ++ item.value

/-- The characters of numbers and truth values. -/
def isValueChar (c : Char) : Bool :=
  c.isDigit || c == '-' || "truefals".toList.contains c

/-- The item is a word, and its value is a number or a truth value. -/
structure Item.Plain (item : Item) : Prop where
  word : item.word ≠ []
  key : ∀ c ∈ item.key, isWhitespace c = false
  value : ∀ c ∈ item.value, isValueChar c = true

theorem isWhitespace_of_isValueChar {c : Char} (h : isValueChar c = true) :
    isWhitespace c = false := by
  rw [isValueChar, Bool.or_eq_true, Bool.or_eq_true] at h
  rcases h with (hdigit | hminus) | hletter
  · exact isWhitespace_of_isDigit hdigit
  · rw [beq_iff_eq.mp hminus]
    rfl
  · have hletters : IsWord "truefals".toList := by decide
    exact hletters.2 c (List.contains_iff_mem.mp hletter)

theorem isValueChar_toDigits (n : ℕ) : ∀ c ∈ Nat.toDigits 10 n, isValueChar c = true := by
  intro c hmem
  rw [isValueChar, isDigit_of_mem hmem]
  rfl

namespace Item.Plain

variable {item : Item}

theorem isWord (h : item.Plain) : IsWord item.word := by
  refine ⟨h.word, fun c hmem => ?_⟩
  rcases List.mem_append.mp hmem with hkey | hvalue
  · exact h.key c hkey
  · exact isWhitespace_of_isValueChar (h.value c hvalue)

/-- What ends with another character is found in the key only. -/
theorem infix_key (h : item.Plain) {front : List Char} {c : Char} (hc : isValueChar c = false)
    (hcontained : front ++ [c] <:+: item.word) : front ++ [c] <:+: item.key := by
  have hvalue : c ∉ item.value := by
    intro hmem
    rw [h.value c hmem] at hc
    cases hc
  rcases List.infix_append_iff.mp hcontained with
    hkey | hinside | ⟨left, right, hsplit, hleft, hright⟩
  · exact hkey
  · exact absurd (hinside.subset (List.mem_append_right front List.mem_cons_self)) hvalue
  · cases right using List.reverseRecOn with
    | nil =>
      rw [hsplit, List.append_nil]
      exact hleft.isInfix
    | append_singleton right d =>
      rw [← List.append_assoc] at hsplit
      obtain ⟨-, hlast⟩ := List.append_inj' hsplit rfl
      cases hlast
      exact absurd (hright.subset (List.mem_append_right right List.mem_cons_self)) hvalue

/-- A key with an equals sign is a prefix of the key only. -/
theorem prefix_key (h : item.Plain) {name : List Char} (hbegins : name ++ ['='] <+: item.word) :
    name ++ ['='] <+: item.key := by
  rcases List.prefix_or_prefix_of_prefix hbegins (List.prefix_append item.key item.value) with
    hkey | ⟨rest, hsplit⟩
  · exact hkey
  · rw [← hsplit, Item.word, List.prefix_append_right_inj] at hbegins
    cases rest using List.reverseRecOn with
    | nil =>
      rw [← hsplit, List.append_nil]
    | append_singleton rest d =>
      rw [← List.append_assoc] at hsplit
      obtain ⟨-, hlast⟩ := List.append_inj' hsplit rfl
      cases hlast
      have hmem := hbegins.subset (List.mem_append_right rest List.mem_cons_self)
      cases h.value _ hmem

end Item.Plain

/-- A signed number. -/
def intDigits : ℤ → List Char
  | .ofNat n => Nat.toDigits 10 n
  | .negSucc n => '-' :: Nat.toDigits 10 (n + 1)

/-- A word without a value. -/
def wordItem (word : List Char) : Item := ⟨word, []⟩

/-- A number behind its key. -/
def natItem (key : List Char) (n : ℕ) : Item := ⟨key, Nat.toDigits 10 n⟩

/-- A signed number behind its key. -/
def intItem (key : List Char) (i : ℤ) : Item := ⟨key, intDigits i⟩

/-- A truth value behind its key. -/
def boolItem (key : List Char) (value : Bool) : Item :=
  ⟨key, if value then "true".toList else "false".toList⟩

theorem plain_wordItem {word : List Char} (h : IsWord word) : (wordItem word).Plain where
  word := List.append_ne_nil_of_left_ne_nil h.1 []
  key := h.2
  value := by simp [wordItem]

theorem plain_natItem {key : List Char} (h : IsWord key) (n : ℕ) : (natItem key n).Plain where
  word := List.append_ne_nil_of_left_ne_nil h.1 _
  key := h.2
  value := isValueChar_toDigits n

/-- A number without a key. -/
theorem plain_natItem_nil (n : ℕ) : (natItem [] n).Plain where
  word := Nat.toDigits_ne_nil
  key := List.forall_mem_nil _
  value := isValueChar_toDigits n

theorem plain_intItem {key : List Char} (h : IsWord key) (i : ℤ) : (intItem key i).Plain where
  word := List.append_ne_nil_of_left_ne_nil h.1 _
  key := h.2
  value := by
    cases i with
    | ofNat n => exact isValueChar_toDigits n
    | negSucc n => exact List.forall_mem_cons.mpr ⟨rfl, isValueChar_toDigits (n + 1)⟩

theorem plain_boolItem {key : List Char} (h : IsWord key) (value : Bool) :
    (boolItem key value).Plain where
  word := List.append_ne_nil_of_left_ne_nil h.1 _
  key := h.2
  value := by
    have htexts : ∀ value, (boolItem [] value).value.all isValueChar = true := by decide
    exact List.all_eq_true.mp (htexts value)

/-- What a line of items does not contain: a part that is in no key and does not end like a
value. -/
theorem not_infix_items {items : List Item} (hplain : ∀ item ∈ items, item.Plain)
    {front : List Char} {c : Char} (hblank : ' ' ∉ front ++ [c]) (hc : isValueChar c = false)
    (hkeys : ∀ key ∈ items.map Item.key, ¬ front ++ [c] <:+: key) :
    ¬ front ++ [c] <:+: unwords (items.map Item.word) := by
  intro hcontained
  obtain ⟨word, hmem, hword⟩ := infix_of_infix_unwords hblank (by simp) hcontained
  obtain ⟨item, hitem, rfl⟩ := List.mem_map.mp hmem
  exact hkeys item.key (List.mem_map_of_mem hitem) ((hplain item hitem).infix_key hc hword)

/-- Reading the first item with the key from a line of items, when the key begins no other key. -/
theorem field_items {α : Type*} {items : List Item} (hplain : ∀ item ∈ items, item.Plain)
    {name value : List Char} {parse : List Char → Option α} {x : α}
    (hkeys : ∀ key ∈ items.map Item.key, name ++ ['='] <+: key → key = name ++ ['='])
    (hfind : (items.find? fun item => item.key = name ++ ['=']).map Item.value = some value)
    (hvalue : value ≠ []) (hparse : parse value = some x) :
    field (name ++ ['=']) parse (unwords (items.map Item.word)) = some x := by
  obtain ⟨item, hfound, rfl⟩ := Option.map_eq_some_iff.mp hfind
  obtain ⟨hkey, before, after, rfl, hbefore⟩ := List.find?_eq_some_iff_append.mp hfound
  have hword : item.word = name ++ ['='] ++ item.value := by
    rw [Item.word, of_decide_eq_true hkey]
  have hcomma : item.value.getLast? ≠ some ',' := by
    intro hlast
    cases (hplain item (by simp)).value _ (List.mem_of_getLast? hlast)
  have hwords : ∀ word ∈ (before ++ item :: after).map Item.word, IsWord word :=
    List.forall_mem_map.mpr fun item hmem => (hplain item hmem).isWord
  rw [List.map_append, List.map_cons, hword] at hwords ⊢
  apply field_unwords hwords _ hvalue hcomma hparse
  -- an item before it would have the same key
  intro word hmem hbegins
  obtain ⟨other, hother, rfl⟩ := List.mem_map.mp hmem
  have hall : other ∈ before ++ item :: after := List.mem_append_left _ hother
  have hsame := hkeys other.key (List.mem_map_of_mem hall) ((hplain other hall).prefix_key hbegins)
  have hdiffers := hbefore other hother
  simp [hsame] at hdiffers

theorem field_items_eq_none {α : Type*} {items : List Item} (hplain : ∀ item ∈ items, item.Plain)
    {name : List Char} {parse : List Char → Option α}
    (hkeys : ∀ key ∈ items.map Item.key, ¬ name ++ ['='] <+: key) :
    field (name ++ ['=']) parse (unwords (items.map Item.word)) = none := by
  apply field_unwords_eq_none
  · exact List.forall_mem_map.mpr fun item hmem => (hplain item hmem).isWord
  · intro word hmem hbegins
    obtain ⟨item, hitem, rfl⟩ := List.mem_map.mp hmem
    exact hkeys item.key (List.mem_map_of_mem hitem) ((hplain item hitem).prefix_key hbegins)

/-! ## Lines -/

/-- The character that ends a line. -/
def isLineBreak (c : Char) : Bool := c == '\n'

/-- A carriage return before a line break belongs to it. -/
def chopReturn (line : List Char) : List Char :=
  if line.getLast? = some '\r' then line.dropLast else line

/-- `lines`: a line break ends a line, and what is left behind the last one is a line too. -/
def lines (text : List Char) : List (List Char) :=
  let pieces := text.splitOnP isLineBreak
  pieces.dropLast.map chopReturn ++ pieces.getLast?.toList.filter (fun line => !line.isEmpty)

/-- Text behind a line break does not change the lines before it. -/
theorem lines_append_cons (text rest : List Char) :
    lines (text ++ '\n' :: rest) = (text.splitOnP isLineBreak).map chopReturn ++ lines rest := by
  have hne : rest.splitOnP isLineBreak ≠ [] := List.splitOnP_ne_nil _ rest
  rw [lines, lines, List.splitOnP_append_cons text rest rfl, List.dropLast_append_of_ne_nil hne,
    List.map_append, List.append_assoc, List.getLast?_append_of_ne_nil _ hne]

/-- What is between two separators is a part of the text. -/
theorem infix_of_mem_splitOnP {p : Char → Bool} {text piece : List Char}
    (h : piece ∈ text.splitOnP p) : piece <:+: text := by
  -- stronger: the first piece is a prefix, which the induction needs
  have hall : ∃ head tail, text.splitOnP p = head :: tail ∧ head <+: text ∧
      ∀ other ∈ tail, other <:+: text := by
    clear h
    induction text with
    | nil => exact ⟨[], [], List.splitOnP_nil, List.prefix_rfl, by simp⟩
    | cons c text ih =>
      obtain ⟨head, tail, hsplit, hhead, htail⟩ := ih
      rw [List.splitOnP_cons_eq_if_modifyHead, hsplit]
      split
      · refine ⟨[], head :: tail, rfl, List.nil_prefix, ?_⟩
        rw [List.forall_mem_cons]
        exact ⟨List.infix_cons hhead.isInfix, fun other hmem => List.infix_cons (htail other hmem)⟩
      · refine ⟨c :: head, tail, rfl, ?_, fun other hmem => List.infix_cons (htail other hmem)⟩
        exact List.cons_prefix_cons.mpr ⟨rfl, hhead⟩
  obtain ⟨head, tail, hsplit, hhead, htail⟩ := hall
  rw [hsplit] at h
  rcases List.mem_cons.mp h with rfl | hmem
  · exact hhead.isInfix
  · exact htail piece hmem

theorem prefix_chopReturn (line : List Char) : chopReturn line <+: line := by
  unfold chopReturn
  split
  · exact List.dropLast_prefix line
  · exact List.prefix_rfl

/-! ## Logs -/

/-- What is written to a log: a report of the writer in question, or any other text. -/
inductive LogEntry (ρ : Type*) where
  | report (r : ρ)
  | other (text : List Char)

variable {ρ σ : Type*}

/-- The text of an entry. -/
def LogEntry.text (write : ρ → List Char) : LogEntry ρ → List Char
  | .report r => write r
  | .other text => text

/-- The report of an entry, if it is one. -/
def LogEntry.reported : LogEntry ρ → Option ρ
  | .report r => some r
  | .other _ => none

/-- The log, each entry with a line break behind it. -/
def logText (write : ρ → List Char) (entries : List (LogEntry ρ)) : List Char :=
  entries.flatMap (fun entry => entry.text write ++ ['\n'])

/-- A reader that looks at the lines with a marker, and remembers what it needs. -/
def readMarked (marker : List Char) (read : σ → List Char → σ) (text : List Char) (s : σ) : σ :=
  (lines text).foldl (fun s line => if marker <:+: line then read s line else s) s

/-- A reader that ignores the lines of all other text sees the reports. -/
theorem foldl_lines_logText {write : ρ → List Char} {read : σ → List Char → σ}
    (hline : ∀ r, '\n' ∉ write r ∧ (write r).getLast? ≠ some '\r') {entries : List (LogEntry ρ)}
    (hother : ∀ text, .other text ∈ entries → ∀ line, line <:+: text → ∀ s, read s line = s)
    (s : σ) :
    (lines (logText write entries)).foldl read s =
      (entries.filterMap LogEntry.reported).foldl (fun s r => read s (write r)) s := by
  induction entries generalizing s with
  | nil => rfl
  | cons entry entries ih =>
    have hrest := ih fun text hmem => hother text (List.mem_cons_of_mem _ hmem)
    have htext : logText write (entry :: entries) =
        entry.text write ++ '\n' :: logText write entries := by
      simp [logText]
    rw [htext, lines_append_cons, List.foldl_append]
    cases entry with
    | report r =>
      -- a report is one line
      have hone : (write r).splitOnP isLineBreak = [write r] := by
        apply List.splitOnP_eq_singleton
        intro c hmem
        apply beq_false_of_ne
        rintro rfl
        exact (hline r).1 hmem
      have hwhole : chopReturn (write r) = write r := if_neg (hline r).2
      rw [LogEntry.text, hone, List.map_singleton, hwhole, List.foldl_cons, List.foldl_nil]
      exact hrest _
    | other text =>
      have hskipped : ∀ line ∈ (text.splitOnP isLineBreak).map chopReturn, ∀ s,
          read s line = s := by
        intro line hmem
        obtain ⟨piece, hpiece, rfl⟩ := List.mem_map.mp hmem
        apply hother text List.mem_cons_self
        exact (prefix_chopReturn piece).isInfix.trans (infix_of_mem_splitOnP hpiece)
      have hsame : ((text.splitOnP isLineBreak).map chopReturn).foldl read s = s := by
        generalize (text.splitOnP isLineBreak).map chopReturn = skipped at hskipped
        induction skipped with
        | nil => rfl
        | cons line skipped ihs =>
          rw [List.forall_mem_cons] at hskipped
          rw [List.foldl_cons, hskipped.1]
          exact ihs hskipped.2
      rw [LogEntry.text, hsame]
      exact hrest s

end TsnFieldbus.Foundations
