import AccessPolicy.Proofs.Json.Grammar
import AccessPolicy.Yaml.Block

/-!
# Texts in both formats

A grammar of texts that are JSON and YAML at once, with the values that they spell. Strings stand in
double quotes. A character stands for itself there if YAML allows it and does not fold it, and else
is escaped, in the ways that mean the same in both formats. Numbers are integers. Between tokens may
stand spaces, tabs and line feeds, but a key, with its quotes and up to its colon, stays on one line
and is no longer than YAML looks ahead.

Main results:

* `spells_of_common` — the texts of the grammar spell their values in JSON;
* `kept_of_common` — they hold only characters that YAML takes as they are.
-/

namespace AccessPolicy.Json

/-! ## Strings -/

/-- Whether a character may stand in double quotes as it is, in either format. -/
def standsForItself (c : Char) : Bool :=
  isPlain c && Yaml.isAllowed c && !Yaml.isBreak c && c ≠ '\u0085'

/-- The ways to write a character in double quotes. -/
inductive CommonChar (c : Char) : List Char → Prop where
  | plain (h : standsForItself c) : CommonChar c [c]
  | short {letter : Char} (h : (letter, c) ∈ shortEscapes) : CommonChar c ['\\', letter]
  | unit {x₁ x₂ x₃ x₄ : Char} (h : Text.hexValue? [x₁, x₂, x₃, x₄] = some c.toNat) :
    CommonChar c ['\\', 'u', x₁, x₂, x₃, x₄]

/-- The ways to write some characters in double quotes. -/
inductive CommonChars : List Char → List Char → Prop where
  | nil : CommonChars [] []
  | cons {c : Char} {cs text rest : List Char} (hc : CommonChar c text)
    (hcs : CommonChars cs rest) : CommonChars (c :: cs) (text ++ rest)

/-- The texts of a string. -/
inductive CommonString : String → List Char → Prop where
  | mk {cs text : List Char} (h : CommonChars cs text) :
    CommonString (String.ofList cs) ('"' :: text ++ ['"'])

/-! ## Values -/

/-- What may stand between tokens. -/
def Spacing (text : List Char) : Prop :=
  ∀ c ∈ text, c = ' ' ∨ c = '\t' ∨ c = '\n'

/-- What may stand between a key and its colon. -/
def Blanks (text : List Char) : Prop :=
  ∀ c ∈ text, Yaml.isBlank c

instance (text : List Char) : Decidable (Spacing text) :=
  List.decidableBAll _ text

instance (text : List Char) : Decidable (Blanks text) :=
  List.decidableBAll _ text

/-- A text with gaps around it. -/
inductive Spaced (inner : List Char) : List Char → Prop where
  | mk {before after : List Char} (hbefore : Spacing before) (hafter : Spacing after) :
    Spaced inner (before ++ inner ++ after)

/-- The length of a key, up to its colon, beyond which YAML does not look ahead. -/
def maxKeyLength : Nat := 1024

mutual

/-- The texts of a value, without gaps around them. -/
inductive Common : Json → List Char → Prop where
  | null : Common .null ['n', 'u', 'l', 'l']
  | true : Common (.bool true) ['t', 'r', 'u', 'e']
  | false : Common (.bool false) ['f', 'a', 'l', 's', 'e']
  | integer {negative : Bool} {digits : List Nat} {text : List Char}
    (hdigits : DigitsSpelled digits text) (hzero : digits.head? = some 0 → digits.length = 1) :
    Common (.number ⟨negative, digits, [], none⟩) ((if negative then ['-'] else []) ++ text)
  | string {s : String} {text : List Char} (h : CommonString s text) :
    Common (.string (some s)) text
  | emptyArray {gap : List Char} (h : Spacing gap) : Common (.array []) ('[' :: gap ++ [']'])
  | array {items : List Json} {text : List Char} (h : CommonItems items text) :
    Common (.array items) ('[' :: text ++ [']'])
  | emptyObject {gap : List Char} (h : Spacing gap) :
    Common (.object []) ('\x7b' :: gap ++ ['\x7d'])
  | object {entries : List (Json × Json)} {text : List Char} (h : CommonEntries entries text) :
    Common (.object entries) ('\x7b' :: text ++ ['\x7d'])

/-- The texts of one or more items of an array, divided by commas. -/
inductive CommonItems : List Json → List Char → Prop where
  | one {item : Json} {inner text : List Char} (hitem : Common item inner)
    (hspace : Spaced inner text) : CommonItems [item] text
  | more {item : Json} {items : List Json} {inner text rest : List Char}
    (hitem : Common item inner) (hspace : Spaced inner text) (hrest : CommonItems items rest) :
    CommonItems (item :: items) (text ++ ',' :: rest)

/-- The texts of an entry of an object. -/
inductive CommonEntry : Json × Json → List Char → Prop where
  | mk {name : String} {value : Json} {before key blanks inner text : List Char}
    (hbefore : Spacing before) (hname : CommonString name key) (hblanks : Blanks blanks)
    (hlength : (key ++ blanks).length ≤ maxKeyLength) (hvalue : Common value inner)
    (hspace : Spaced inner text) :
    CommonEntry (.string (some name), value) (before ++ key ++ blanks ++ ':' :: text)

/-- The texts of one or more entries of an object, divided by commas. -/
inductive CommonEntries : List (Json × Json) → List Char → Prop where
  | one {entry : Json × Json} {text : List Char} (hentry : CommonEntry entry text) :
    CommonEntries [entry] text
  | more {entry : Json × Json} {entries : List (Json × Json)} {text rest : List Char}
    (hentry : CommonEntry entry text) (hrest : CommonEntries entries rest) :
    CommonEntries (entry :: entries) (text ++ ',' :: rest)

end

/-- A gap outside of all brackets, where YAML takes no tabs. -/
def OuterSpacing (text : List Char) : Prop :=
  ∀ c ∈ text, c = ' ' ∨ c = '\n'

/-- A whole text in both formats that spells a value. -/
inductive CommonText (json : Json) (text : String) : Prop where
  | mk {before inner after : List Char} (hbefore : OuterSpacing before) (hinner : Common json inner)
    (hafter : OuterSpacing after) (htext : text.toList = before ++ inner ++ after)

theorem Spaced.length_le {inner text : List Char} (h : Spaced inner text) :
    inner.length ≤ text.length := by
  obtain ⟨-, -⟩ := h
  simp only [List.length_append]
  omega

/-! ## As JSON -/

theorem Spacing.blank {text : List Char} (h : Spacing text) : Blank text := by
  intro c hc
  rcases h c hc with rfl | rfl | rfl <;> rfl

theorem Blanks.gap {text : List Char} (h : Blanks text) : Spacing text := by
  intro c hc
  have hblank := h c hc
  simp only [Yaml.isBlank, Bool.or_eq_true, decide_eq_true_eq] at hblank
  exact hblank.imp_right .inl

theorem OuterSpacing.gap {text : List Char} (h : OuterSpacing text) : Spacing text :=
  fun c hc => (h c hc).imp_right .inr

theorem Spaced.around {inner text : List Char} (h : Spaced inner text) : Around inner text := by
  obtain ⟨hbefore, hafter⟩ := h
  exact .mk hbefore.blank hafter.blank

theorem charsSpelled_of_common {cs text : List Char} (h : CommonChars cs text) :
    CharsSpelled cs text := by
  induction h with
  | nil => exact .nil
  | cons hc _ ih =>
    refine .cons ?_ ih
    cases hc with
    | plain h =>
      -- JSON asks only for some of what lets a character stand for itself
      simp only [standsForItself, isPlain, Bool.and_eq_true, decide_eq_true_eq] at h
      obtain ⟨⟨⟨⟨⟨not_control, not_quote⟩, not_backslash⟩, -⟩, -⟩, -⟩ := h
      exact .plain not_control not_quote not_backslash
    | short h => exact .short h
    | unit h => exact .unit h

theorem stringSpelled_of_common {s : String} {text : List Char} (h : CommonString s text) :
    StringSpelled s text := by
  obtain ⟨h⟩ := h
  exact .mk (charsSpelled_of_common h)

theorem numberSpelled_integer {negative : Bool} {digits : List Nat} {text : List Char}
    (hdigits : DigitsSpelled digits text) (hzero : digits.head? = some 0 → digits.length = 1) :
    NumberSpelled ⟨negative, digits, [], none⟩ ((if negative then ['-'] else []) ++ text) := by
  have hspelled : NumberSpelled ⟨negative, digits, [], none⟩
      ((if negative then ['-'] else []) ++ text ++ [] ++ []) := .mk hdigits hzero .none .none
  simpa using hspelled

mutual

/-- What is common to both formats is JSON. -/
theorem spells_of_common {json : Json} {text : List Char} : Common json text → Spells json text
  | .null => .null
  | .true => .true
  | .false => .false
  | .integer hdigits hzero => .number (numberSpelled_integer hdigits hzero)
  | .string h => .string (stringSpelled_of_common h)
  | .emptyArray h => .emptyArray h.blank
  | .array h => .array (spellsItems_of_common h)
  | .emptyObject h => .emptyObject h.blank
  | .object h => .object (spellsEntries_of_common h)

theorem spellsItems_of_common {items : List Json} {text : List Char} :
    CommonItems items text → SpellsItems items text
  | .one hitem hspace => .one (spells_of_common hitem) hspace.around
  | .more hitem hspace hrest =>
    .more (spells_of_common hitem) hspace.around (spellsItems_of_common hrest)

theorem spellsEntry_of_common {entry : Json × Json} {text : List Char} :
    CommonEntry entry text → SpellsEntry entry text
  | .mk hbefore hname hblanks _ hvalue hspace =>
    .mk (stringSpelled_of_common hname) (.mk hbefore.blank hblanks.gap.blank)
      (spells_of_common hvalue) hspace.around

theorem spellsEntries_of_common {entries : List (Json × Json)} {text : List Char} :
    CommonEntries entries text → SpellsEntries entries text
  | .one hentry => .one (spellsEntry_of_common hentry)
  | .more hentry hrest => .more (spellsEntry_of_common hentry) (spellsEntries_of_common hrest)

end

/-- Whether YAML takes a character as it is: it is allowed, and no break that is written anew. -/
def isKept (c : Char) : Bool :=
  Yaml.isAllowed c && c ≠ '\r' && c ≠ '\u0085'

/-- A text of characters that YAML takes as they are. -/
def Kept (text : List Char) : Prop :=
  ∀ c ∈ text, isKept c

instance (text : List Char) : Decidable (Kept text) :=
  List.decidableBAll _ text

theorem Kept.append {text rest : List Char} (h : Kept text) (hrest : Kept rest) :
    Kept (text ++ rest) :=
  fun c hc => (List.mem_append.mp hc).elim (h c) (hrest c)

theorem Kept.cons {c : Char} {text : List Char} (hc : isKept c) (h : Kept text) :
    Kept (c :: text) :=
  List.forall_mem_cons.mpr ⟨hc, h⟩

theorem Spacing.kept {text : List Char} (h : Spacing text) : Kept text := by
  intro c hc
  rcases h c hc with rfl | rfl | rfl <;> decide

theorem Kept.of_visible {text : List Char} (h : ∀ c ∈ text, ' ' ≤ c ∧ c ≤ '~') : Kept text := by
  intro c hc
  obtain ⟨hlow, hhigh⟩ := h c hc
  have hcr : c ≠ '\r' := by
    rintro rfl
    exact absurd hlow (by decide)
  have hnel : c ≠ '\u0085' := by
    rintro rfl
    exact absurd hhigh (by decide)
  simp [isKept, Yaml.isAllowed, hlow, hhigh, hcr, hnel]

theorem visible_of_isDigit {c : Char} (h : c.isDigit) : ' ' ≤ c ∧ c ≤ '~' := by
  simp only [Char.isDigit, Bool.and_eq_true, decide_eq_true_eq] at h
  exact ⟨Char.le_trans (by decide : ' ' ≤ '0') h.1, Char.le_trans h.2 (by decide : '9' ≤ '~')⟩

theorem visible_of_hexDigit {c : Char} {n : Nat} (h : Text.hexDigit? c = some n) :
    ' ' ≤ c ∧ c ≤ '~' := by
  unfold Text.hexDigit? at h
  split at h
  · next hdigit => exact visible_of_isDigit hdigit
  · split at h
    · next hletter =>
      exact ⟨Char.le_trans (by decide) hletter.1, Char.le_trans hletter.2 (by decide)⟩
    · split at h
      · next hletter =>
        exact ⟨Char.le_trans (by decide) hletter.1, Char.le_trans hletter.2 (by decide)⟩
      · simp at h

theorem visible_of_hexValue {digits : List Char} {n m : Nat}
    (h : digits.foldlM (fun n c => (Text.hexDigit? c).map (n * 16 + ·)) n = some m) :
    ∀ c ∈ digits, ' ' ≤ c ∧ c ≤ '~' := by
  induction digits generalizing n with
  | nil => simp
  | cons c rest ih =>
    obtain ⟨next, hnext, hrest⟩ := Option.bind_eq_some_iff.mp h
    obtain ⟨d, hd, -⟩ := Option.map_eq_some_iff.mp hnext
    exact List.forall_mem_cons.mpr ⟨visible_of_hexDigit hd, ih hrest⟩

theorem kept_of_commonChars {cs text : List Char} (h : CommonChars cs text) : Kept text := by
  induction h with
  | nil => simp [Kept]
  | @cons c _ _ _ hc _ ih =>
    refine Kept.append ?_ ih
    cases hc with
    | plain h =>
      refine .cons ?_ (by simp [Kept])
      simp only [standsForItself, isPlain, Bool.and_eq_true, decide_eq_true_eq] at h
      obtain ⟨⟨⟨⟨⟨not_control, -⟩, -⟩, hallowed⟩, -⟩, hnel⟩ := h
      have hcr : c ≠ '\r' := by
        rintro rfl
        exact absurd not_control (by decide)
      simp [isKept, hallowed, hcr, hnel]
    | @short letter h =>
      -- there are no more than eight of these
      have hall : ∀ p ∈ shortEscapes, isKept p.1 := by decide
      have hletter : isKept letter := hall (letter, c) h
      exact .cons (by decide) (.cons hletter (by decide))
    | unit h =>
      exact .cons (by decide) (.cons (by decide) (.of_visible (visible_of_hexValue h)))

theorem kept_of_commonString {s : String} {text : List Char} (h : CommonString s text) :
    Kept text := by
  obtain ⟨h⟩ := h
  exact .cons (by decide) ((kept_of_commonChars h).append (by decide))

theorem Spaced.kept {inner text : List Char} (h : Spaced inner text) (hinner : Kept inner) :
    Kept text := by
  obtain ⟨hbefore, hafter⟩ := h
  exact (hbefore.kept.append hinner).append hafter.kept

mutual

/-- No text in both formats has a character that YAML would not take as it is. -/
theorem kept_of_common {json : Json} {text : List Char} : Common json text → Kept text
  | .null | .true | .false => by decide
  | .integer hdigits _ => by
    -- the sign is kept, and digits are
    refine .append ?_ (.of_visible fun c hc => visible_of_isDigit (hdigits.isDigit c hc))
    split <;> decide
  | .string h => kept_of_commonString h
  | .emptyArray h | .emptyObject h => .cons (by decide) (h.kept.append (by decide))
  | .array h => .cons (by decide) ((kept_of_commonItems h).append (by decide))
  | .object h => .cons (by decide) ((kept_of_commonEntries h).append (by decide))

theorem kept_of_commonItems {items : List Json} {text : List Char} :
    CommonItems items text → Kept text
  | .one hitem hspace => hspace.kept (kept_of_common hitem)
  | .more hitem hspace hrest =>
    (hspace.kept (kept_of_common hitem)).append (.cons (by decide) (kept_of_commonItems hrest))

theorem kept_of_commonEntry {entry : Json × Json} {text : List Char} :
    CommonEntry entry text → Kept text
  | .mk hbefore hname hblanks _ hvalue hspace =>
    ((hbefore.kept.append (kept_of_commonString hname)).append hblanks.gap.kept).append
      (.cons (by decide) (hspace.kept (kept_of_common hvalue)))

theorem kept_of_commonEntries {entries : List (Json × Json)} {text : List Char} :
    CommonEntries entries text → Kept text
  | .one hentry => kept_of_commonEntry hentry
  | .more hentry hrest =>
    (kept_of_commonEntry hentry).append (.cons (by decide) (kept_of_commonEntries hrest))

end

theorem CommonText.kept {json : Json} {text : String} (h : CommonText json text) :
    Kept text.toList := by
  obtain ⟨hbefore, hinner, hafter, htext⟩ := h
  rw [htext]
  exact (hbefore.gap.kept.append (kept_of_common hinner)).append hafter.gap.kept

end AccessPolicy.Json
