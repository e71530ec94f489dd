import EdgeInclude.Proofs.Expression.Literal
import EdgeInclude.Proofs.Integer
import Mathlib.Data.List.TakeWhile

/-!
# Tokens as they are written

There are two spellings of tokens. In the strict one an integer is its decimal form, and
a backslash stands only where one is needed. In the free one zeros may stand before the
digits of an integer, and backslashes before any characters. What is read is the free
spelling, and all of it.

Results:
* `readToken_spelled`: a token is read as it is spelled, if it ends where it is to.
* `spelled_of_readToken`: nothing else is read as a token, and only blanks are passed
  over.
-/

namespace EdgeInclude

/-! ## Spellings -/

/-- Whether a text is a name: a letter or an underscore, and then letters, digits and
    underscores. -/
def IsIdentifier (f : Text) : Prop :=
  ∃ c cs, f = c :: cs ∧ isNameStart c = true ∧ ∀ d ∈ cs, Text.isNameChar d = true

theorem isNameChar_of_isNameStart {c : Char} (h : isNameStart c = true) :
    Text.isNameChar c = true := by
  simp only [isNameStart, Text.isNameChar, Char.isAlphanum, Bool.or_eq_true] at h ⊢
  tauto

theorem IsIdentifier.isNameChar {f : Text} (h : IsIdentifier f) :
    ∀ c ∈ f, Text.isNameChar c = true := by
  obtain ⟨c, cs, rfl, hc, hcs⟩ := h
  exact List.forall_mem_cons.2 ⟨isNameChar_of_isNameStart hc, hcs⟩

/-- How integers and strings are written. -/
structure Spelling where
  integer : Int64 → Text → Prop
  string : Text → Text → Prop

namespace Spelling

/-- Integers in their decimal form, and strings with backslashes only where they are needed. -/
def strict : Spelling where
  integer n w := w = Integer.toText n
  string := IsPlainString

/-- Integers with zeros before their digits, and strings with any backslashes. -/
def free : Spelling where
  integer := Integer.IsWritten
  string := IsString

end Spelling

namespace Token

/-- Whether a text is that of a token. -/
def Spelled (sp : Spelling) : Token → Text → Prop
  | integer n, w => sp.integer n w
  | string s, w => sp.string s w
  | reference ref, w => ∃ inner, ref.IsWritten inner ∧ w = '$' :: '(' :: inner ++ [')']
  | name f, w => IsIdentifier f ∧ w = '$' :: f
  | opening, w => w = ['(']
  | closing, w => w = [')']
  | comma, w => w = [',']

/-- What is spelled strictly is spelled freely too. -/
theorem Spelled.free {t : Token} {w : Text} (h : t.Spelled .strict w) : t.Spelled .free w := by
  cases t with
  | integer n => exact (show w = Integer.toText n from h) ▸ Integer.isWritten_toText n
  | string s => exact IsPlainString.isString h
  | _ => exact h

/-- The tokens that end those before them. -/
def isDelimiter : Token → Bool
  | opening => true
  | closing => true
  | comma => true
  | _ => false

end Token

/-! ## Ends of tokens -/

/-- Whether a character ends the token before it. -/
def endsToken (c : Char) : Bool := Text.isBlank c || c == '(' || c == ')' || c == ','

theorem isNameChar_eq_false_of_endsToken {c : Char} (h : endsToken c = true) :
    Text.isNameChar c = false := by
  simp only [endsToken, Bool.or_eq_true, beq_iff_eq] at h
  obtain ((h | rfl) | rfl) | rfl := h
  · exact Text.isNameChar_eq_false_of_isBlank h
  · rfl
  · rfl
  · rfl

theorem isDigit_eq_false_of_endsToken {c : Char} (h : endsToken c = true) :
    c.isDigit = false := by
  have hname := isNameChar_eq_false_of_endsToken h
  simp only [Text.isNameChar, Char.isAlphanum, Bool.or_eq_false_iff] at hname
  exact hname.1.2

namespace Token

/-- Whether a token ends where a text begins: at a character that ends it, unless it ends by
    itself. -/
def EndsAt (t : Token) (rest : Text) : Prop :=
  t.isDelimiter = true ∨ rest.head?.all endsToken = true

theorem head?_any_eq_false {p : Char → Bool} {rest : Text} (hrest : rest.head?.all endsToken = true)
    (h : ∀ c, endsToken c = true → p c = false) : rest.head?.any p = false := by
  cases rest with
  | nil => rfl
  | cons c cs => exact h c hrest

end Token

/-! ## Reading tokens -/

theorem readInteger_append {n : Int64} {w rest : Text} (h : Integer.IsWritten n w)
    (hrest : rest.head?.any Char.isDigit = false) : readInteger (w ++ rest) = .ok (n, rest) := by
  have hparse : w.head? ≠ some '+' → Integer.parse? w = some n :=
    fun hplus => (Integer.parse?_eq_some_iff hplus).2 h
  obtain ⟨-, hdecimal⟩ | ⟨-, digits, rfl, hdecimal⟩ := h
  · obtain ⟨hne, hdigits, -⟩ := Text.isDecimal_iff.1 hdecimal
    obtain ⟨c, cs, rfl⟩ := List.exists_cons_of_ne_nil hne
    have hc : c.isDigit = true := hdigits c List.mem_cons_self
    obtain ⟨htake, hdrop⟩ := Text.span_append hdigits hrest
    have hplus : (c :: cs).head? ≠ some '+' := by
      rintro heq
      rw [Option.some.inj heq] at hc
      cases hc
    rw [readInteger.eq_2, List.nil_append, htake, hdrop, hparse hplus]
    rintro ds heq
    rw [(List.cons.inj heq).1] at hc
    cases hc
  · obtain ⟨-, hdigits, -⟩ := Text.isDecimal_iff.1 hdecimal
    obtain ⟨htake, hdrop⟩ := Text.span_append hdigits hrest
    rw [List.cons_append, readInteger.eq_1, List.singleton_append, htake, hdrop,
      hparse (by simp)]

theorem isWritten_of_readInteger {s rest : Text} {n : Int64}
    (h : readInteger s = .ok (n, rest)) : ∃ w, s = w ++ rest ∧ Integer.IsWritten n w := by
  have hplus : ∀ r : Text, (r.takeWhile Char.isDigit).head? ≠ some '+' := by
    intro r hr
    have hdigit := List.mem_takeWhile_imp (List.mem_of_head? hr)
    cases hdigit
  have hread : ∀ sign r : Text, (sign ++ r.takeWhile Char.isDigit).head? ≠ some '+' →
      Integer.parse? (sign ++ r.takeWhile Char.isDigit) = some n →
        ∃ w, sign ++ r = w ++ r.dropWhile Char.isDigit ∧ Integer.IsWritten n w := by
    intro sign r hhead hparse
    refine ⟨sign ++ r.takeWhile Char.isDigit, ?_, (Integer.parse?_eq_some_iff hhead).1 hparse⟩
    rw [List.append_assoc, List.takeWhile_append_dropWhile]
  unfold readInteger at h
  split at h
  · next sign r hsplit =>
    split at h
    · next hparse =>
      cases h
      split at hsplit
      · next digits =>
        obtain ⟨rfl, rfl⟩ := Prod.mk.inj hsplit
        exact hread ['-'] digits (by simp) hparse
      · obtain ⟨rfl, rfl⟩ := Prod.mk.inj hsplit
        exact hread [] _ (hplus _) hparse
    · cases h

theorem readToken_reference {cs rest : Text} {ref : Reference}
    (h : readReference? cs = some (ref, rest)) :
    readToken '$' ('(' :: cs) = .ok (some (.reference ref), rest) := by
  simp [readToken, h]

theorem readToken_number {c : Char} {cs : Text} (h : (c.isDigit || c == '-') = true) :
    readToken c cs = (readInteger (c :: cs)).map fun (n, rest) => (some (.integer n), rest) := by
  have hne : ∀ d : Char, (d.isDigit || d == '-') = false → c ≠ d := by
    rintro d hd rfl
    rw [h] at hd
    cases hd
  unfold readToken
  rw [if_neg (hne _ rfl), if_neg (hne _ rfl), if_neg (hne _ rfl), if_neg (hne _ rfl),
    if_neg (hne _ rfl), if_pos h]

theorem readToken_name {c : Char} {cs rest : Text} (hc : isNameStart c = true)
    (hcs : ∀ d ∈ cs, Text.isNameChar d = true) (hrest : rest.head?.any Text.isNameChar = false) :
    readToken '$' (c :: cs ++ rest) = .ok (some (.name (c :: cs)), rest) := by
  obtain ⟨htake, hdrop⟩ := Text.span_append
    (List.forall_mem_cons.2 ⟨isNameChar_of_isNameStart hc, hcs⟩) hrest
  have hparenthesis : c ≠ '(' := by
    rintro rfl
    cases hc
  have hread : readToken '$' (c :: cs ++ rest) =
      if isNameStart c then
        .ok (some (.name (readName (c :: cs ++ rest)).1), (readName (c :: cs ++ rest)).2)
      else .error .danglingDollar := by
    unfold readToken
    simp only [List.cons_append, Char.reduceEq, if_false, if_true]
  rw [hread, if_pos hc, readName, htake, hdrop]

/-- A token is read as it is spelled. -/
theorem readToken_spelled {t : Token} {w rest : Text} (h : t.Spelled .free w)
    (hends : t.EndsAt rest) :
    ∃ c cs, w = c :: cs ∧ readToken c (cs ++ rest) = .ok (some t, rest) := by
  have hother : t.isDelimiter = false → rest.head?.all endsToken = true := fun hd =>
    hends.resolve_left (by rw [hd]; exact Bool.false_ne_true)
  cases t with
  | integer n =>
    obtain ⟨c, cs, rfl, hc⟩ := Integer.IsWritten.head h
    have hrest := Token.head?_any_eq_false (hother rfl) fun _ => isDigit_eq_false_of_endsToken
    refine ⟨c, cs, rfl, ?_⟩
    rw [readToken_number hc, ← List.cons_append, readInteger_append h hrest]
    rfl
  | string s =>
    have hrest : rest.head? ≠ some '\'' := by
      intro hquote
      have hends := hother rfl
      rw [hquote] at hends
      cases hends
    obtain ⟨cs, rfl, hread⟩ := readString_of_isString h hrest
    refine ⟨'\'', cs, rfl, ?_⟩
    show (readString (cs ++ rest)).map _ = _
    rw [hread]
    rfl
  | reference ref =>
    obtain ⟨inner, hinner, rfl⟩ := h
    have hread : readReference? (inner ++ ')' :: rest) = some (ref, rest) :=
      readReference?_eq_some_iff.2 ⟨inner, rfl, hinner⟩
    refine ⟨'$', '(' :: inner ++ [')'], rfl, ?_⟩
    rw [List.append_assoc, List.cons_append, List.singleton_append]
    exact readToken_reference hread
  | name f =>
    obtain ⟨⟨c, cs, rfl, hc, hcs⟩, rfl⟩ := h
    have hrest := Token.head?_any_eq_false (hother rfl) fun _ => isNameChar_eq_false_of_endsToken
    exact ⟨'$', c :: cs, rfl, readToken_name hc hcs hrest⟩
  | opening => exact ⟨'(', [], h, rfl⟩
  | closing => exact ⟨')', [], h, rfl⟩
  | comma => exact ⟨',', [], h, rfl⟩

/-- What is read as a name is one. -/
theorem isIdentifier_readName {c : Char} (hc : isNameStart c = true) (cs : Text) :
    IsIdentifier (readName (c :: cs)).1 := by
  refine ⟨c, cs.takeWhile Text.isNameChar, ?_, hc, fun d hd => List.mem_takeWhile_imp hd⟩
  rw [readName, List.takeWhile_cons_of_pos (isNameChar_of_isNameStart hc)]

theorem readName_append (s : Text) : (readName s).1 ++ (readName s).2 = s :=
  List.takeWhile_append_dropWhile

/-- What is read is a token as it is spelled, or a blank that is passed over. -/
theorem spelled_of_readToken {c : Char} {cs rest : Text} {token : Option Token}
    (h : readToken c cs = .ok (token, rest)) :
    (∃ t, token = some t ∧ ∃ w, c :: cs = w ++ rest ∧ t.Spelled .free w) ∨
      token = none ∧ Text.isBlank c = true ∧ rest = cs := by
  unfold readToken at h
  split at h
  · next hc => cases h; exact .inl ⟨_, rfl, ['('], by rw [hc]; rfl, rfl⟩
  split at h
  · next hc => cases h; exact .inl ⟨_, rfl, [')'], by rw [hc]; rfl, rfl⟩
  split at h
  · next hc => cases h; exact .inl ⟨_, rfl, [','], by rw [hc]; rfl, rfl⟩
  split at h
  · next hc =>
    obtain ⟨⟨s, rest'⟩, hread, hs⟩ := map_eq_ok_iff.1 h
    cases hs
    subst hc
    exact .inl ⟨_, rfl, isString_of_readString hread⟩
  split at h
  · next hc =>
    subst hc
    split at h
    · next cs =>
      split at h
      · next ref rest' hread =>
        cases h
        obtain ⟨inner, rfl, hinner⟩ := readReference?_eq_some_iff.1 hread
        exact .inl ⟨_, rfl, '$' :: '(' :: inner ++ [')'], by simp, inner, hinner, rfl⟩
      · cases h
    · next d ds _ =>
      split at h
      · next hd =>
        cases h
        refine .inl ⟨_, rfl, '$' :: (readName (d :: ds)).1, ?_, isIdentifier_readName hd ds, rfl⟩
        rw [List.cons_append, readName_append]
      · cases h
    · cases h
  split at h
  · obtain ⟨⟨n, rest'⟩, hread, hs⟩ := map_eq_ok_iff.1 h
    cases hs
    exact .inl ⟨_, rfl, isWritten_of_readInteger hread⟩
  split at h
  · next hblank =>
    cases h
    exact .inr ⟨rfl, hblank, rfl⟩
  · cases h

/-- A blank is passed over. -/
theorem readToken_blank {c : Char} (h : Text.isBlank c = true) (cs : Text) :
    readToken c cs = .ok (none, cs) := by
  have hne : ∀ d : Char, Text.isBlank d = false → c ≠ d := by
    rintro d hd rfl
    rw [h] at hd
    cases hd
  have hnumber : ¬(c.isDigit || c == '-') = true := by
    have hdigit := isDigit_eq_false_of_endsToken (c := c) (by simp [endsToken, h])
    simp [hdigit, hne '-' rfl]
  unfold readToken
  rw [if_neg (hne _ rfl), if_neg (hne _ rfl), if_neg (hne _ rfl), if_neg (hne _ rfl),
    if_neg (hne _ rfl), if_neg hnumber, if_pos h]

end EdgeInclude
