import AccessPolicy.Address.Text
import AccessPolicy.Proofs.Text.Integer
import Mathlib.Data.List.Basic
import Mathlib.Data.List.TakeWhile

/-!
# Addresses written and read back

The text of an address is read as the address, wherever the zero groups that are left out of an
IPv6 address stand: in front, in the middle, at the end or nowhere. Numbers are read up to the first
character that is no digit, and groups up to the two colons in place of the groups left out or up to
the end. A text without dots is never read as an IPv4 address, neither as a whole nor in the place
of two groups.

Main results:

* `readDigits_toDigits` — a number is read up to what follows its digits;
* `readGroups_written` — groups are read up to where they end;
* `isZeroRun_longestZeros` — what is left out are zero groups;
* `ofLiteral?_text` — every address is read back.
-/

namespace AccessPolicy.Address

/-! ## Digits -/

theorem digit?_digitChar {base d : Nat} (hbase : base ≤ 16) (hd : d < base) :
    digit? base (Nat.digitChar d) = some d :=
  Text.filter_hexDigit?_digitChar hbase hd

/-- The digits of a number are characters of digits below the base. -/
theorem exists_of_mem_toDigits {base n : Nat} (hbase : 1 < base) {c : Char}
    (h : c ∈ Nat.toDigits base n) : ∃ d < base, c = Nat.digitChar d := by
  induction n using Nat.base_induction base hbase with
  | single n hn =>
    rw [Nat.toDigits_of_lt_base hn, List.mem_singleton] at h
    exact ⟨n, hn, h⟩
  | digit n d hd hn ih =>
    rw [← Nat.toDigits_append_toDigits hbase hn hd, List.mem_append,
      Nat.toDigits_of_lt_base hd, List.mem_singleton] at h
    rcases h with h | rfl
    · exact ih h
    · exact ⟨d, hd, rfl⟩

/-- Only zero is written with a zero in front. -/
theorem head?_toDigits_ne_zero {base n : Nat} (hbase : 1 < base) (hn : 0 < n) :
    (Nat.toDigits base n).head? ≠ some '0' := by
  induction n using Nat.base_induction base hbase with
  | single n hlt =>
    rw [Nat.toDigits_of_lt_base hlt, List.head?_cons, Ne, Option.some_inj, Nat.digitChar_eq_zero]
    omega
  | digit n d hd hpos ih =>
    rw [← Nat.toDigits_append_toDigits hbase hpos hd,
      List.head?_append_of_ne_nil _ Nat.toDigits_ne_nil]
    exact ih hpos

/-- Whether digits end in front of a text. -/
def DigitsEnd (base : Nat) (text : List Char) : Prop :=
  ∀ c ∈ text.head?, digit? base c = none

theorem digitsEnd_nil (base : Nat) : DigitsEnd base [] := by
  intro c hc
  cases hc

theorem digitsEnd_cons {base : Nat} {c : Char} (hc : digit? base c = none) (text : List Char) :
    DigitsEnd base (c :: text) := by
  rintro _ ⟨rfl⟩
  exact hc

theorem readDigits_go_of_digitsEnd {base : Nat} {text : List Char} (h : DigitsEnd base text)
    (n count : Nat) : readDigits.go base n count text = ((n, count), text) := by
  cases text with
  | nil => rfl
  | cons c rest => rw [readDigits.go, h c rfl]

/-- The digits of a number in front of anything are read as the number. -/
theorem readDigits_go_toDigits {base : Nat} (hbase : 1 < base ∧ base ≤ 16) (n : Nat)
    (rest : List Char) : readDigits.go base 0 0 (Nat.toDigits base n ++ rest) =
      readDigits.go base n (Nat.toDigits base n).length rest := by
  induction n using Nat.base_induction base hbase.1 generalizing rest with
  | single n hn =>
    rw [Nat.toDigits_of_lt_base hn, List.singleton_append, readDigits.go,
      digit?_digitChar hbase.2 hn]
    simp
  | digit n d hd hn ih =>
    rw [← Nat.toDigits_append_toDigits hbase.1 hn hd, Nat.toDigits_of_lt_base hd,
      List.append_assoc, ih, List.singleton_append, readDigits.go, digit?_digitChar hbase.2 hd,
      List.length_append, List.length_singleton, Nat.mul_comm]

theorem readDigits_toDigits {base : Nat} (hbase : 1 < base ∧ base ≤ 16) (n : Nat)
    {rest : List Char} (hrest : DigitsEnd base rest) :
    readDigits base (Nat.toDigits base n ++ rest) =
      ((n, (Nat.toDigits base n).length), rest) := by
  rw [readDigits, readDigits_go_toDigits hbase, readDigits_go_of_digitsEnd hrest]

/-! ## IPv4 addresses -/

theorem readOctet_toDigits (octet : UInt8) {rest : List Char} (hrest : DigitsEnd 10 rest) :
    readOctet (Nat.toDigits 10 octet.toNat ++ rest) = some (octet, rest) := by
  have hlt : octet.toNat < 256 := octet.toNat_lt
  have hpos : 0 < (Nat.toDigits 10 octet.toNat).length := Nat.length_toDigits_pos
  have hshort : (Nat.toDigits 10 octet.toNat).length ≤ 3 :=
    (Nat.length_toDigits_le_iff (by decide) (by decide)).mpr (by omega)
  -- a number of several digits does not begin with zero
  have hhead : ¬ (1 < (Nat.toDigits 10 octet.toNat).length ∧
      (Nat.toDigits 10 octet.toNat ++ rest).head? = some '0') := by
    rintro ⟨hlong, hzero⟩
    rw [List.head?_append_of_ne_nil _ Nat.toDigits_ne_nil] at hzero
    by_cases hoctet : 0 < octet.toNat
    · exact head?_toDigits_ne_zero (by decide) hoctet hzero
    · rw [Nat.eq_zero_of_not_pos hoctet] at hlong
      exact absurd hlong (by decide)
  have hok : ¬ (((Nat.toDigits 10 octet.toNat).length = 0 ||
      3 < (Nat.toDigits 10 octet.toNat).length || 255 < octet.toNat ||
      (1 < (Nat.toDigits 10 octet.toNat).length &&
        (Nat.toDigits 10 octet.toNat ++ rest).head? = some '0')) = true) := by
    simp only [Bool.or_eq_true, Bool.and_eq_true, decide_eq_true_eq]
    rintro (((h | h) | h) | h)
    · omega
    · omega
    · omega
    · exact hhead h
  rw [readOctet, readDigits_toDigits (by decide) _ hrest]
  show (if _ then none else some (octet.toNat.toUInt8, rest)) = some (octet, rest)
  rw [if_neg hok, Nat.toUInt8, UInt8.ofNat_toNat]

theorem digitsEnd_dot (text : List Char) : DigitsEnd 10 ('.' :: text) :=
  digitsEnd_cons (by decide) text

theorem toList_text_v4 (a b c d : UInt8) : (v4 a b c d).text.toList =
    Nat.toDigits 10 a.toNat ++ '.' :: (Nat.toDigits 10 b.toNat ++ '.' ::
      (Nat.toDigits 10 c.toNat ++ '.' :: (Nat.toDigits 10 d.toNat ++ []))) := by
  simp [text]

theorem readV4_text (a b c d : UInt8) :
    readV4 (v4 a b c d).text.toList = some ((a, b, c, d), []) := by
  rw [toList_text_v4, readV4]
  simp only [readNextOctet, readOctet_toDigits _ (digitsEnd_dot _),
    readOctet_toDigits _ (digitsEnd_nil 10), Option.bind_eq_bind, Option.bind_some]
  rfl

/-! ## Texts without dots -/

theorem readDigits_go_suffix (base n count : Nat) (text : List Char) :
    (readDigits.go base n count text).2 <:+ text := by
  induction text generalizing n count with
  | nil => exact List.suffix_refl []
  | cons c rest ih =>
    rw [readDigits.go]
    cases digit? base c with
    | none => exact List.suffix_refl _
    | some d => exact (ih _ _).trans (List.suffix_cons c rest)

theorem readOctet_suffix {text rest : List Char} {octet : UInt8}
    (h : readOctet text = some (octet, rest)) : rest <:+ text := by
  have hsuffix := readDigits_go_suffix 10 0 0 text
  unfold readOctet readDigits at h
  split at h
  next n count more hread =>
    rw [hread] at hsuffix
    split at h
    · cases h
    · obtain ⟨-, rfl⟩ := Prod.mk.inj (Option.some.inj h)
      exact hsuffix

/-- Without a dot there is no second octet. -/
theorem readV4_of_no_dot {text : List Char} (h : '.' ∉ text) : readV4 text = none := by
  rw [readV4]
  cases hfirst : readOctet text with
  | none => rfl
  | some first =>
    obtain ⟨octet, rest⟩ := first
    have hrest : '.' ∉ rest := fun hdot => h ((readOctet_suffix hfirst).subset hdot)
    have hnext : readNextOctet rest = none := by
      unfold readNextOctet
      split
      · exact absurd List.mem_cons_self hrest
      · rfl
    show (readNextOctet rest).bind _ = none
    rw [hnext, Option.bind_none]

/-! ## Groups -/

theorem readGroup_toDigits (group : UInt16) {rest : List Char} (hrest : DigitsEnd 16 rest) :
    readGroup (Nat.toDigits 16 group.toNat ++ rest) = some (group, rest) := by
  have hlt : group.toNat < 65536 := group.toNat_lt
  have hpos : 0 < (Nat.toDigits 16 group.toNat).length := Nat.length_toDigits_pos
  have hshort : (Nat.toDigits 16 group.toNat).length ≤ 4 :=
    (Nat.length_toDigits_le_iff (by decide) (by decide)).mpr (by omega)
  have hok : ¬ (((Nat.toDigits 16 group.toNat).length = 0 ||
      4 < (Nat.toDigits 16 group.toNat).length) = true) := by
    simp only [Bool.or_eq_true, decide_eq_true_eq]
    omega
  rw [readGroup, readDigits_toDigits (by decide) _ hrest]
  show (if _ then none else some (group.toNat.toUInt16, rest)) = some (group, rest)
  rw [if_neg hok, Nat.toUInt16, UInt16.ofNat_toNat]

/-- Groups as they are written, with a colon in front of all of them but the first one. -/
def written : Bool → List UInt16 → List Char
  | _, [] => []
  | true, group :: rest => Nat.toDigits 16 group.toNat ++ written false rest
  | false, group :: rest => ':' :: (Nat.toDigits 16 group.toNat ++ written false rest)

theorem toList_groupsText (groups : List UInt16) :
    (groupsText groups).toList = written true groups := by
  have hmore : ∀ (group : UInt16) (rest : List UInt16),
      (groupsText (group :: rest)).toList =
        Nat.toDigits 16 group.toNat ++ written false rest := by
    intro group rest
    induction rest generalizing group with
    | nil => simp [groupsText, written]
    | cons next rest ih =>
      have htext : groupsText (group :: next :: rest) =
          String.ofList (Nat.toDigits 16 group.toNat) ++ ":" ++ groupsText (next :: rest) := by
        rw [groupsText, List.map_cons, List.map_cons, String.intercalate_cons_cons]
        rfl
      rw [htext, String.toList_append, String.toList_append, ih]
      simp [written]
  cases groups with
  | nil => rfl
  | cons group rest => exact hmore group rest

/-- Groups are written with hexadecimal digits and colons. -/
theorem of_mem_written {first : Bool} {groups : List UInt16} {c : Char}
    (h : c ∈ written first groups) : (∃ d < 16, c = Nat.digitChar d) ∨ c = ':' := by
  induction groups generalizing first with
  | nil => simp [written] at h
  | cons group rest ih =>
    have hgroup : c ∈ Nat.toDigits 16 group.toNat ++ written false rest →
        (∃ d < 16, c = Nat.digitChar d) ∨ c = ':' := by
      intro h
      rcases List.mem_append.mp h with h | h
      · exact .inl (exists_of_mem_toDigits (by decide) h)
      · exact ih h
    cases first with
    | true => exact hgroup h
    | false =>
      rcases List.mem_cons.mp h with h | h
      · exact .inr h
      · exact hgroup h

theorem digitChar_ne_dot (d : Nat) : Nat.digitChar d ≠ '.' := Nat.digitChar_ne '.' (by decide)

theorem dot_notMem_written (first : Bool) (groups : List UInt16) :
    '.' ∉ written first groups := by
  intro h
  rcases of_mem_written h with ⟨d, -, hd⟩ | hcolon
  · exact digitChar_ne_dot d hd.symm
  · exact absurd hcolon (by decide)

/-- Whether groups end in front of a text: it is empty, or groups are left out there. -/
inductive GroupsEnd : List Char → Prop where
  | nil : GroupsEnd []
  | colons (text : List Char) : GroupsEnd (':' :: ':' :: text)

theorem digitsEnd_colon (text : List Char) : DigitsEnd 16 (':' :: text) :=
  digitsEnd_cons (by decide) text

/-- Behind a group stands a colon or nothing. -/
theorem digitsEnd_written {rest : List Char} (hrest : GroupsEnd rest) (groups : List UInt16) :
    DigitsEnd 16 (written false groups ++ rest) := by
  cases groups with
  | cons group more => exact digitsEnd_colon _
  | nil =>
    cases hrest with
    | nil => exact digitsEnd_nil 16
    | colons text => exact digitsEnd_colon _

/-- No group is read where groups end. -/
theorem readGroups_of_groupsEnd {rest : List Char} (hrest : GroupsEnd rest) (hdot : '.' ∉ rest)
    (left : Nat) (first : Bool) : readGroups left first rest = (([], false), rest) := by
  cases left with
  | zero => rfl
  | succ left =>
    cases hrest with
    | nil =>
      cases first with
      | false => rfl
      | true => cases left <;> rfl
    | colons text =>
      have hv4 : readV4 (':' :: ':' :: text) = none := readV4_of_no_dot hdot
      have hv4' : readV4 (':' :: text) = none :=
        readV4_of_no_dot fun h => hdot (List.mem_cons_of_mem _ h)
      -- a colon is no digit
      have hgroup : readGroup (':' :: text) = none := rfl
      cases first with
      | false =>
        rw [readGroups]
        simp [hv4', hgroup]
      | true =>
        have hgroup' : readGroup (':' :: ':' :: text) = none := rfl
        rw [readGroups]
        simp [hv4, hgroup']

/-- A group is read in front of others. -/
theorem readGroups_cons {left : Nat} (first : Bool) {body more rest : List Char} {group : UInt16}
    {groups : List UInt16} (hv4 : readV4 body = none) (hgroup : readGroup body = some (group, more))
    (hmore : readGroups left false more = ((groups, false), rest)) :
    readGroups (left + 1) first (if first then body else ':' :: body) =
      ((group :: groups, false), rest) := by
  cases first with
  | true =>
    rw [readGroups.eq_def]
    simp [hv4, hgroup, hmore]
  | false =>
    rw [readGroups.eq_def]
    simp [hv4, hgroup, hmore]

/-- Groups are read up to where they end, as long as there are not too many. -/
theorem readGroups_written (groups : List UInt16) {left : Nat} (hleft : groups.length ≤ left)
    {rest : List Char} (hrest : GroupsEnd rest) (hdot : '.' ∉ rest) (first : Bool) :
    readGroups left first (written first groups ++ rest) = ((groups, false), rest) := by
  induction groups generalizing left first with
  | nil => exact readGroups_of_groupsEnd hrest hdot left first
  | cons group more ih =>
    -- there is room for this group, and the others fit into the rest of it
    obtain ⟨left, rfl⟩ : ∃ n, left = n + 1 := Nat.exists_eq_add_one.mpr (by
      rw [List.length_cons] at hleft
      omega)
    have hmore := ih (Nat.le_of_succ_le_succ hleft) false
    have hgroup := readGroup_toDigits group (digitsEnd_written hrest more)
    -- no group is read as an IPv4 address
    have hv4 : readV4 (Nat.toDigits 16 group.toNat ++ (written false more ++ rest)) = none := by
      refine readV4_of_no_dot fun h => ?_
      rw [← List.append_assoc] at h
      rcases List.mem_append.mp h with h | h
      · exact dot_notMem_written true (group :: more) h
      · exact hdot h
    have hread := readGroups_cons first hv4 hgroup hmore
    rw [← List.append_assoc] at hread
    cases first with
    | true => exact hread
    | false => exact hread

/-! ## The groups left out -/

/-- A place in a list of groups, by its start and its length, where all groups are zero. -/
def IsZeroRun (groups : List UInt16) (run : Nat × Nat) : Prop :=
  ∃ before behind, groups = before ++ List.replicate run.2 0 ++ behind ∧ before.length = run.1

theorem isZeroRun_takeWhile (before groups : List UInt16) :
    IsZeroRun (before ++ groups) (before.length, (groups.takeWhile (· == 0)).length) := by
  have hzeros : groups.takeWhile (· == 0) =
      List.replicate (groups.takeWhile (· == 0)).length 0 := by
    refine List.eq_replicate_of_mem fun group hgroup => ?_
    have hzero := List.mem_takeWhile_imp hgroup
    exact eq_of_beq hzero
  refine ⟨before, groups.dropWhile (· == 0), ?_, rfl⟩
  rw [← hzeros, List.append_assoc, List.takeWhile_append_dropWhile]

/-- The search goes on with the better of two runs of zero groups. -/
theorem isZeroRun_go (before : List UInt16) {best : Nat × Nat} {groups : List UInt16}
    (hbest : IsZeroRun (before ++ groups) best) :
    IsZeroRun (before ++ groups) (longestZeros.go before.length best groups) := by
  induction groups generalizing best before with
  | nil => exact hbest
  | cons group rest ih =>
    have hrun := isZeroRun_takeWhile before (group :: rest)
    have happend : before ++ group :: rest = (before ++ [group]) ++ rest := by simp
    rw [longestZeros.go]
    rw [happend] at hbest hrun ⊢
    have hlength : before.length + 1 = (before ++ [group]).length := by simp
    rw [hlength]
    apply ih
    split
    · exact hrun
    · exact hbest

theorem isZeroRun_longestZeros (groups : List UInt16) :
    IsZeroRun groups (longestZeros groups) :=
  isZeroRun_go [] ⟨[], groups, rfl, rfl⟩

/-- An IPv6 address is written with all groups, or with two colons in place of some that are
zero. -/
theorem toList_text_v6 (a b c d e f g h : UInt16) :
    (v6 a b c d e f g h).text.toList = written true [a, b, c, d, e, f, g, h] ∨
      ∃ before behind length, 1 < length ∧
        [a, b, c, d, e, f, g, h] = before ++ List.replicate length 0 ++ behind ∧
        (v6 a b c d e f g h).text.toList =
          written true before ++ ':' :: ':' :: written true behind := by
  obtain ⟨before, behind, hgroups, hbefore⟩ := isZeroRun_longestZeros [a, b, c, d, e, f, g, h]
  rw [text]
  generalize longestZeros [a, b, c, d, e, f, g, h] = run at hgroups hbefore
  obtain ⟨start, length⟩ := run
  obtain rfl : before.length = start := hbefore
  by_cases hlong : 1 < length
  · -- the groups in front of those left out and behind them are written
    have hfront : [a, b, c, d, e, f, g, h].take before.length = before := by
      rw [hgroups, List.append_assoc, List.take_left]
    have hback : [a, b, c, d, e, f, g, h].drop (before.length + length) = behind := by
      rw [hgroups]
      exact List.drop_left' (by simp)
    refine .inr ⟨before, behind, length, hlong, hgroups, ?_⟩
    show (if 1 < length then _ else _ : String).toList = _
    rw [if_pos hlong, hfront, hback, String.toList_append, String.toList_append,
      toList_groupsText, toList_groupsText]
    simp
  · refine .inl ?_
    show (if 1 < length then _ else _ : String).toList = _
    rw [if_neg hlong, toList_groupsText]

/-! ## Addresses -/

theorem dot_notMem_text_v6 (a b c d e f g h : UInt16) :
    '.' ∉ (v6 a b c d e f g h).text.toList := by
  rcases toList_text_v6 a b c d e f g h with htext | ⟨before, behind, length, -, -, htext⟩
  · rw [htext]
    exact dot_notMem_written true _
  · rw [htext]
    simp [dot_notMem_written]

theorem readV6_text (a b c d e f g h : UInt16) :
    readV6 (v6 a b c d e f g h).text.toList = some (v6 a b c d e f g h, []) := by
  rcases toList_text_v6 a b c d e f g h with htext | ⟨before, behind, length, hlong, hgroups, htext⟩
  · -- all eight groups are there
    have hread := readGroups_written [a, b, c, d, e, f, g, h] (le_refl 8) .nil List.not_mem_nil
      true
    rw [List.append_nil] at hread
    rw [htext, readV6, hread]
    rfl
  · -- the groups in front are read up to the two colons, and those behind up to the end
    have hcount := congrArg List.length hgroups
    simp only [List.length_append, List.length_replicate, List.length_cons, List.length_nil]
      at hcount
    have hdot : '.' ∉ ':' :: ':' :: written true behind := by
      simp [dot_notMem_written]
    have hbefore : before.length ≤ 8 := by omega
    have hbehind : behind.length ≤ 7 - before.length := by omega
    have hfront := readGroups_written before hbefore (.colons (written true behind)) hdot true
    have hback := readGroups_written behind hbehind .nil List.not_mem_nil true
    rw [List.append_nil] at hback
    -- as many groups are put in as were left out
    have hzeros : 8 - before.length - behind.length = length := by omega
    rw [htext, readV6, hfront]
    simp only [show before.length ≠ 8 by omega, if_false, hback, hzeros, ← hgroups]
    rfl

/-- Every address is read back from its text. -/
theorem ofLiteral?_text (address : Address) :
    ofLiteral? address.text.toList = some address := by
  cases address with
  | v4 a b c d => rw [ofLiteral?, readV4_text]
  | v6 a b c d e f g h =>
    rw [ofLiteral?, readV4_of_no_dot (dot_notMem_text_v6 a b c d e f g h), readV6_text]

/-- Addresses are written with hexadecimal digits, dots and colons. -/
theorem of_mem_text {address : Address} {c : Char} (h : c ∈ address.text.toList) :
    (∃ d < 16, c = Nat.digitChar d) ∨ c = '.' ∨ c = ':' := by
  cases address with
  | v4 a b c d =>
    have hoctet {octet : UInt8} {x : Char} (hx : x ∈ Nat.toDigits 10 octet.toNat) :
        ∃ d < 16, x = Nat.digitChar d := by
      obtain ⟨d, hd, rfl⟩ := exists_of_mem_toDigits (by decide) hx
      exact ⟨d, by omega, rfl⟩
    rw [toList_text_v4] at h
    simp only [List.mem_append, List.mem_cons, List.not_mem_nil, or_false] at h
    rcases h with h | h | h | h | h | h | h
    · exact .inl (hoctet h)
    · exact .inr (.inl h)
    · exact .inl (hoctet h)
    · exact .inr (.inl h)
    · exact .inl (hoctet h)
    · exact .inr (.inl h)
    · exact .inl (hoctet h)
  | v6 a b c d e f g h' =>
    rcases toList_text_v6 a b c d e f g h' with htext | ⟨before, behind, length, -, -, htext⟩
    · rw [htext] at h
      exact (of_mem_written h).imp_right .inr
    · rw [htext] at h
      simp only [List.mem_append, List.mem_cons] at h
      rcases h with h | h | h | h
      · exact (of_mem_written h).imp_right .inr
      · exact .inr (.inr h)
      · exact .inr (.inr h)
      · exact (of_mem_written h).imp_right .inr

theorem notMem_text {c : Char} (hc : c ∈ ['/', '[']) (address : Address) :
    c ∉ address.text.toList := by
  intro h
  rcases of_mem_text h with ⟨d, -, rfl⟩ | rfl | rfl
  · rcases List.mem_cons.mp hc with hslash | hbracket
    · exact Nat.digitChar_ne '/' (by decide) hslash
    · exact Nat.digitChar_ne '[' (by decide) (List.mem_singleton.mp hbracket)
  · exact absurd hc (by decide)
  · exact absurd hc (by decide)

/-- The text of an address spells the address, in canonical form. -/
theorem ofText?_text (address : Address) : ofText? address.text = some address.canonical := by
  -- no bracket stands in front that could be taken away
  have hbracket := notMem_text (c := '[') (by decide) address
  have hstrip : stripBrackets address.text.toList = address.text.toList := by
    unfold stripBrackets
    split
    · next rest htext =>
      rw [htext] at hbracket
      exact absurd List.mem_cons_self hbracket
    · rfl
  rw [ofText?, hstrip, ofLiteral?_text, Option.map_some]

end AccessPolicy.Address
