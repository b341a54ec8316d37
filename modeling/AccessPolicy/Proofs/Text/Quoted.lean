import AccessPolicy.Proofs.Address.Text
import AccessPolicy.Text.Quoted

/-!
# Texts in quotes can be told apart

A text in quotes says which text it is, also with something behind it. Each character is written in
one of three ways, and the first two characters of what is written tell which; so from the left to
the right one character after the other is found again, and the first quote that is not escaped ends
the text.

Main results:

* `escaped_escape` — the ways in which a character is written;
* `Escaped.append_inj` — what is written for a character tells the character and where it ends;
* `quoted_append_inj` — a text in quotes tells the text and where it ends.
-/

namespace AccessPolicy.Text

/-- The characters that are escaped by a backslash and a sign, with their signs. -/
def signs : List (Char × Char) :=
  [('"', '"'), ('\\', '\\'), ('\n', 'n'), ('\r', 'r'), ('\t', 't'), ('\x00', '0')]

/-- The ways to write a character between quotes. -/
inductive Escaped : Char → List Char → Prop where
  | sign {c sign : Char} (h : (c, sign) ∈ signs) : Escaped c ['\\', sign]
  | itself {c : Char} (hquote : c ≠ '"') (hslash : c ≠ '\\') : Escaped c [c]
  | code (c : Char) : Escaped c ('\\' :: 'u' :: '\x7b' :: (hexDigits c.toNat ++ ['\x7d']))

/-- Which characters can be seen does not matter: a quote and a backslash never stand for
themselves. -/
theorem escaped_escape (c : Char) : Escaped c (escape c) := by
  unfold escape
  split
  · next h => rcases h with rfl | rfl <;> exact .sign (by decide)
  · next hplain =>
    obtain ⟨hquote, hslash⟩ := not_or.mp hplain
    -- the four characters that have a letter for a sign
    iterate 4
      split
      · next h =>
        subst h
        exact .sign (by decide)
    split
    · exact .itself hquote hslash
    · exact .code c

/-- The brace behind the digits of a number ends it. -/
theorem hexDigits_append_inj {n m : Nat} {rest rest' : List Char}
    (h : hexDigits n ++ '\x7d' :: rest = hexDigits m ++ '\x7d' :: rest') :
    n = m ∧ rest = rest' := by
  have hbrace (text : List Char) : Address.DigitsEnd 16 ('\x7d' :: text) :=
    Address.digitsEnd_cons (by decide) text
  have hread := congrArg (Address.readDigits 16) h
  unfold hexDigits at hread
  rw [Address.readDigits_toDigits (by decide) n (hbrace rest),
    Address.readDigits_toDigits (by decide) m (hbrace rest')] at hread
  simp only [Prod.mk.injEq, List.cons.injEq, true_and] at hread
  exact ⟨hread.1.1, hread.2⟩

/-- No sign belongs to two characters, and none starts a number. -/
theorem signs_distinct : (∀ p ∈ signs, ∀ q ∈ signs, p.2 = q.2 → p.1 = q.1) ∧
    ∀ p ∈ signs, p.2 ≠ 'u' := by
  decide

theorem Escaped.append_inj {c d : Char} {text text' rest rest' : List Char}
    (hc : Escaped c text) (hd : Escaped d text') (h : text ++ rest = text' ++ rest') :
    c = d ∧ rest = rest' := by
  obtain ⟨hdistinct, hnumber⟩ := signs_distinct
  cases hc with
  | @sign sign hsign =>
    cases hd with
    | @sign sign' hsign' =>
      obtain ⟨rfl, rfl⟩ : sign = sign' ∧ rest = rest' := by simpa using h
      exact ⟨hdistinct _ hsign _ hsign' rfl, rfl⟩
    | itself _ hslash => simp [Ne.symm hslash] at h
    | code =>
      obtain ⟨rfl, -⟩ : sign = 'u' ∧ _ := by simpa using h
      exact absurd rfl (hnumber _ hsign)
  | itself _ hslash =>
    cases hd with
    | sign => simp [hslash] at h
    | itself => simpa using h
    | code => simp [hslash] at h
  | code =>
    cases hd with
    | @sign sign' hsign' =>
      obtain ⟨hsign, -⟩ : 'u' = sign' ∧ _ := by simpa using h
      exact absurd hsign.symm (hnumber _ hsign')
    | itself _ hslash => simp [Ne.symm hslash] at h
    | code =>
      have hdigits :
          hexDigits c.toNat ++ '\x7d' :: rest = hexDigits d.toNat ++ '\x7d' :: rest' := by
        simpa using h
      obtain ⟨hnat, hrest⟩ := hexDigits_append_inj hdigits
      exact ⟨Char.toNat_inj.mp hnat, hrest⟩

/-- A quote within the text is escaped, so that it does not look like the one at the end. -/
theorem Escaped.append_ne_quote {c : Char} {text : List Char} (h : Escaped c text)
    (rest rest' : List Char) : text ++ rest ≠ '"' :: rest' := by
  cases h with
  | itself hquote => simp [hquote]
  | _ => simp

theorem flatMap_escape_append_inj {s t : List Char} {rest rest' : List Char}
    (h : s.flatMap escape ++ '"' :: rest = t.flatMap escape ++ '"' :: rest') :
    s = t ∧ rest = rest' := by
  induction s generalizing t with
  | nil =>
    cases t with
    | nil => simpa using h
    | cons d t =>
      rw [List.flatMap_nil, List.nil_append, List.flatMap_cons, List.append_assoc] at h
      exact absurd h.symm ((escaped_escape d).append_ne_quote _ _)
  | cons c s ih =>
    cases t with
    | nil =>
      rw [List.flatMap_nil, List.nil_append, List.flatMap_cons, List.append_assoc] at h
      exact absurd h ((escaped_escape c).append_ne_quote _ _)
    | cons d t =>
      rw [List.flatMap_cons, List.flatMap_cons, List.append_assoc, List.append_assoc] at h
      obtain ⟨rfl, hmore⟩ := (escaped_escape c).append_inj (escaped_escape d) h
      obtain ⟨rfl, hrest⟩ := ih hmore
      exact ⟨rfl, hrest⟩

theorem quoted_append_inj {s t : String} {rest rest' : List Char}
    (h : (quoted s).toList ++ rest = (quoted t).toList ++ rest') : s = t ∧ rest = rest' := by
  have hinner :
      s.toList.flatMap escape ++ '"' :: rest = t.toList.flatMap escape ++ '"' :: rest' := by
    simpa [quoted] using h
  obtain ⟨hchars, hrest⟩ := flatMap_escape_append_inj hinner
  exact ⟨String.toList_inj.mp hchars, hrest⟩

end AccessPolicy.Text
