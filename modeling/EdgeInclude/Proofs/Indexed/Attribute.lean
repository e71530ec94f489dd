import EdgeInclude.Proofs.Indexed.Tag
import EdgeInclude.Proofs.Markup.Attributes

/-!
# Attributes by position

Reading the attributes of a tag by positions in its bytes. What stands before a key is passed over
byte by byte, and so is what stands in quotes. So reading goes through the inside of characters;
but a key, a quote and the end of a value are found at first bytes only.

A model by position of `parse::parse_attributes` and `parse::closing_quote`.

Results:
* `closingQuote_eq`: where a quoted value ends.
* `readValue_eq`, `readAfterKey_eq`: what follows a key, and where reading goes on.
* `attributes_eq`: attributes are read as they are character by character, and nothing goes wrong.
-/

namespace EdgeInclude

namespace Attributes

variable {quote previous : Char} {s value rest : Text}

theorem eq_append_of_splitAtQuote (h : splitAtQuote quote previous s = some (value, rest)) :
    s = value ++ quote :: rest := by
  induction s generalizing previous value with
  | nil => cases h
  | cons c s ih =>
    rw [splitAtQuote] at h
    split at h
    · next hc =>
      cases h
      rw [hc.1]
      rfl
    · obtain ⟨⟨value, rest⟩, hsplit, heq⟩ := Option.map_eq_some_iff.1 h
      cases heq
      rw [ih hsplit]
      rfl

theorem eq_append_of_readQuoted (h : readQuoted quote s = some (value, rest)) :
    s = value ++ quote :: rest := by
  cases s with
  | nil => cases h
  | cons c s =>
    rw [readQuoted] at h
    split at h
    · next hc =>
      cases h
      rw [hc]
      rfl
    · obtain ⟨⟨value, rest⟩, hsplit, heq⟩ := Option.map_eq_some_iff.1 h
      cases heq
      rw [eq_append_of_splitAtQuote hsplit]
      rfl

/-- Reading a value goes on behind a part of it. -/
theorem readValue_suffix (c : Char) (s : Text) : (readValue c s).2 <:+ c :: s := by
  have hbare : (readBare (c :: s)).2 <:+ c :: s := List.dropWhile_suffix _
  unfold readValue
  split
  · cases hquoted : readQuoted c s with
    | none => exact hbare
    | some found =>
      obtain ⟨value, rest⟩ := found
      rw [eq_append_of_readQuoted hquoted]
      exact ⟨c :: (value ++ [c]), by simp⟩
  · exact hbare

/-- Reading what follows a key goes on behind a part of it. -/
theorem readAfterKey_suffix (s : Text) : (readAfterKey s).2 <:+ s := by
  unfold readAfterKey
  split
  · next c s =>
    split
    · exact List.suffix_cons '=' (c :: s)
    · exact (readValue_suffix c s).trans (List.suffix_cons '=' (c :: s))
  · next c s _ => exact List.suffix_cons c s
  · exact List.suffix_rfl

/-- No value follows a key that anything but an equals sign and the start of a value follows. -/
theorem readAfterKey_of_no_value {c : Char}
    (h : (c == '=' && s.head?.any (!Text.isMarkupSpace ·)) = false) :
    readAfterKey (c :: s) = (none, s) := by
  unfold readAfterKey
  split
  · next d ds heq =>
    obtain ⟨rfl, rfl⟩ := List.cons.inj heq
    have hspace : Text.isMarkupSpace d = true := by simpa using h
    rw [if_pos hspace]
  · next d ds _ heq =>
    obtain ⟨rfl, rfl⟩ := List.cons.inj heq
    rfl
  · next heq => cases heq

/-- A key is read with what follows it, and reading goes on behind both. -/
theorem readFrom_of_isNameChar {c : Char} (hc : Text.isNameChar c = true) (s : Text) :
    let found := readAfterKey ((c :: s).dropWhile isKeyPart)
    found.2 <:+ s ∧
      readFrom 0 (c :: s) = ((c :: s).takeWhile isKeyPart, found.1) :: readFrom 0 found.2 := by
  intro found
  have hsuffix : found.2 <:+ s := by
    have hafter : (c :: s).dropWhile isKeyPart = s.dropWhile isKeyPart := by
      rw [List.dropWhile_cons, if_pos (isKeyPart_of_isNameChar hc)]
    exact (readAfterKey_suffix _).trans (hafter ▸ List.dropWhile_suffix _)
  obtain ⟨skipped, hskipped⟩ := hsuffix
  have hdrop : s.drop (s.length - found.2.length) = found.2 := by
    conv_lhs => rw [← hskipped]
    exact Text.drop_sub_append skipped found.2
  refine ⟨⟨skipped, hskipped⟩, ?_⟩
  rw [readFrom, if_pos hc]
  dsimp only
  rw [readFrom_eq_drop, hdrop]

end Attributes

namespace Indexed

open Text Utf8

/-! ## Reading -/

/-- Whether the byte at a position is a quote that does not follow a backslash. -/
def closesAt (bytes : Bytes) (quote : Char) (i : Nat) : Access Bool := do
  if ← (· == quote) <$> byteAt bytes i then (· != '\\') <$> byteBefore bytes i else pure false

/-- The first position from `i` on of a quote that does not follow a backslash. -/
def searchQuote (bytes : Bytes) (quote : Char) (i : Nat) : Access (Option Nat) :=
  if i < bytes.length then do
    if ← closesAt bytes quote i then pure (some i) else searchQuote bytes quote (i + 1)
  else pure none
termination_by bytes.length - i

/-- The position of the quote that closes a value which begins at `i` (`parse::closing_quote`). -/
def closingQuote (bytes : Bytes) (quote : Char) (i : Nat) : Access (Option Nat) :=
  if isAt (· == quote) bytes i then pure (some i) else searchQuote bytes quote (i + 1)

/-- Reads a quoted value that begins at `i`. Returns it with the position behind its quote. -/
def readQuoted (bytes : Bytes) (quote : Char) (i : Nat) : Access (Option (Text × Nat)) := do
  match ← closingQuote bytes quote i with
  | none => pure none
  | some last =>
    let value ← part bytes i last
    pure (some (value, last + 1))

/-- Reads a value up to the next white space. -/
def readBare (bytes : Bytes) (i : Nat) : Access (Text × Nat) := do
  let last ← runEnd (!isMarkupSpace ·) bytes i
  let value ← part bytes i last
  pure (value, last)

/-- Reads a value that begins at `i`, with its quotes if it has any. -/
def readValue (bytes : Bytes) (i : Nat) : Access (Text × Nat) := do
  let c ← byteAt bytes i
  if isQuote c then
    match ← readQuoted bytes c (i + 1) with
    | some found => pure found
    | none => readBare bytes i
  else readBare bytes i

/-- Whether the key that ends at a position has a value. -/
def hasValue (bytes : Bytes) (keyEnd : Nat) : Access Bool :=
  if isAt (· == '=') bytes keyEnd && decide (keyEnd + 1 < bytes.length) then
    (!isMarkupSpace ·) <$> byteAt bytes (keyEnd + 1)
  else pure false

/-- Reads what follows the key that ends at a position. Returns the value, if there is one, and the
    position at which reading goes on. -/
def readAfterKey (bytes : Bytes) (keyEnd : Nat) : Access (Option Text × Nat) := do
  if ← hasValue bytes keyEnd then
    let (value, next) ← readValue bytes (keyEnd + 1)
    pure (some value, next)
  else pure (none, if keyEnd < bytes.length then keyEnd + 1 else keyEnd)

/-- Reads attributes from a position on, in no more than `rounds` rounds (the loop of
    `parse::parse_attributes`). -/
def attributesFrom (bytes : Bytes) : (rounds i : Nat) → Access (List (Text × Option Text))
  | 0, _ => throw .rounds
  | rounds + 1, i =>
    if i < bytes.length then
      if isAt isNameChar bytes i then do
        let keyEnd ← runEnd Attributes.isKeyPart bytes i
        let key ← part bytes i keyEnd
        let (value, next) ← readAfterKey bytes keyEnd
        let rest ← attributesFrom bytes rounds next
        pure ((key, value) :: rest)
      else attributesFrom bytes rounds (i + 1)
    else pure []

/-- The attributes that bytes say (`parse::parse_attributes`). -/
def attributes (bytes : Bytes) : Access (List (Text × Option Text)) :=
  attributesFrom bytes (bytes.length + 1) 0

variable {u v : Text} {c quote previous : Char}

theorem asciiClass_isKeyPart : AsciiClass Attributes.isKeyPart := by
  intro c d hc hd
  have hequals : (c == '=') = (d == '=') := asciiClass_beq (by decide) c d hc hd
  rw [Attributes.isKeyPart, Attributes.isKeyPart, asciiClass_isMarkupSpace c d hc hd, bne, bne,
    hequals]

theorem asciiClass_isQuote : AsciiClass isQuote := by
  refine asciiClass_of_false fun c hc => ?_
  simp only [isQuote, Bool.or_eq_true, beq_iff_eq] at hc
  obtain rfl | rfl := hc <;> decide

/-! ## Quoted values -/

theorem closesAt_eq (hquote : quote.toNat < 0x80) (hu : u.getLast? = some previous) (c : Char)
    (v : Text) :
    closesAt (u ++ c :: v).utf8 quote u.byteCount = pure (c == quote && previous != '\\') := by
  have hbackslash : AsciiClass (· != '\\') := (asciiClass_beq (by decide)).not
  have hne : u ≠ [] := by
    rintro rfl
    cases hu
  rw [closesAt, (asciiClass_beq hquote).byteAt_eq, pure_bind]
  cases c == quote with
  | false => rfl
  | true => rw [if_pos rfl, hbackslash.byteBefore_eq hne, hu, Bool.true_and, Option.any_some]

/-- Bytes that are no quotes are passed over. -/
theorem searchQuote_skip {bytes front rest : Bytes} (hfront : ∀ b ∈ front, asChar b ≠ quote)
    {i : Nat} (hdrop : bytes.drop i = front ++ rest) :
    searchQuote bytes quote i = searchQuote bytes quote (i + front.length) := by
  induction front generalizing i with
  | nil => rfl
  | cons b front ih =>
    obtain ⟨hb, hfront⟩ := List.forall_mem_cons.1 hfront
    obtain ⟨hget, hlt, hnext⟩ := of_drop_eq_cons hdrop
    have hcloses : closesAt bytes quote i = pure false := by
      rw [closesAt, byteAt, hget, map_pure, pure_bind, beq_eq_false_iff_ne.2 hb]
      rfl
    have hposition : i + (b :: front).length = i + 1 + front.length := by
      rw [List.length_cons]
      omega
    rw [searchQuote, if_pos hlt, hcloses, pure_bind, if_neg Bool.false_ne_true, ih hfront hnext,
      hposition]

/-- No quote is found inside of a character. -/
theorem searchQuote_inside (hquote : quote.toNat < 0x80) (u : Text) (c : Char) (v : Text) :
    searchQuote (u ++ c :: v).utf8 quote (u.byteCount + 1) =
      searchQuote (u ++ c :: v).utf8 quote (byteCount (u ++ [c])) := by
  obtain ⟨a, rest, hc, -, hrest⟩ := utf8EncodeChar_eq_cons c
  have hdrop : (u ++ c :: v).utf8.drop (u.byteCount + 1) = rest ++ utf8 v := by
    rw [← List.tail_drop, drop_byteCount, utf8_cons, hc]
    rfl
  have hinside : ∀ b ∈ rest, asChar b ≠ quote := by
    rintro b hb rfl
    have hcontinues := hrest b hb
    rw [toNat_asChar] at hquote
    rw [isContinuation, decide_eq_true_eq] at hcontinues
    omega
  have hcount : byteCount (u ++ [c]) = u.byteCount + 1 + rest.length := by
    rw [byteCount_append, byteCount_singleton, hc, List.length_cons]
    omega
  rw [searchQuote_skip hinside hdrop, hcount]

theorem searchQuote_eq (hquote : quote.toNat < 0x80) (hu : u.getLast? = some previous) (v : Text) :
    searchQuote (u ++ v).utf8 quote u.byteCount =
      pure ((Attributes.splitAtQuote quote previous v).map fun cut => byteCount (u ++ cut.1)) := by
  induction v generalizing u previous with
  | nil =>
    rw [searchQuote, if_neg (by rw [List.append_nil, length_utf8]; exact Nat.lt_irrefl _)]
    rfl
  | cons c v ih =>
    rw [searchQuote, if_pos (lt_length_utf8 u c v), closesAt_eq hquote hu, pure_bind,
      searchQuote_inside hquote, Attributes.splitAtQuote]
    by_cases hcloses : c = quote ∧ previous ≠ '\\'
    · rw [if_pos (by simpa using hcloses), if_pos hcloses]
      simp
    · have hlast : List.getLast? (u ++ [c]) = some c := List.getLast?_concat
      have hnext := ih hlast
      rw [List.append_assoc, List.singleton_append] at hnext
      rw [if_neg (by simpa using hcloses), if_neg hcloses, hnext, Option.map_map]
      congr 2
      funext cut
      simp

theorem closingQuote_eq (hquote : quote.toNat < 0x80) (u v : Text) :
    closingQuote (u ++ v).utf8 quote u.byteCount =
      pure ((Attributes.readQuoted quote v).map fun cut => byteCount (u ++ cut.1)) := by
  rw [closingQuote, (asciiClass_beq hquote).isAt_eq]
  cases v with
  | nil =>
    have hend : ¬u.byteCount + 1 < u.utf8.length := by
      rw [length_utf8]
      omega
    rw [List.append_nil, if_neg (by simp), searchQuote, if_neg hend]
    rfl
  | cons c v =>
    rw [List.head?_cons, Option.any_some, Attributes.readQuoted]
    by_cases hc : c = quote
    · rw [if_pos (beq_iff_eq.2 hc), if_pos hc]
      simp
    · have hlast : List.getLast? (u ++ [c]) = some c := List.getLast?_concat
      have hnext := searchQuote_eq hquote hlast v
      rw [List.append_assoc, List.singleton_append] at hnext
      rw [if_neg (by simpa using hc), if_neg hc, searchQuote_inside hquote, hnext, Option.map_map]
      congr 2
      funext cut
      simp

/-! ## Values -/

/-- What is read of a text, and the position at which reading goes on. -/
def placed {α : Type} (s : Text) (found : α × Text) : α × Nat :=
  (found.1, s.byteCount - found.2.byteCount)

theorem readQuoted_eq (hquote : quote.toNat < 0x80) (u v : Text) :
    readQuoted (u ++ v).utf8 quote u.byteCount =
      pure ((Attributes.readQuoted quote v).map (placed (u ++ v))) := by
  rw [readQuoted, closingQuote_eq hquote, pure_bind]
  cases hread : Attributes.readQuoted quote v with
  | none => rfl
  | some found =>
    obtain ⟨value, rest⟩ := found
    obtain rfl := Attributes.eq_append_of_readQuoted hread
    have hnext : byteCount (u ++ value) + 1 = byteCount (u ++ value ++ [quote]) :=
      (byteCount_append_singleton hquote _).symm
    have hsplit : u ++ (value ++ quote :: rest) = u ++ value ++ [quote] ++ rest := by simp
    have hpart : part (u ++ (value ++ quote :: rest)).utf8 u.byteCount (byteCount (u ++ value)) =
        pure value := part_eq (v := quote :: rest) (by simp) rfl rfl
    rw [Option.map_some]
    dsimp only
    rw [hpart, pure_bind, hnext, Option.map_some, placed, hsplit, byteCount_sub_append]

theorem readBare_eq (u v : Text) :
    readBare (u ++ v).utf8 u.byteCount = pure (placed (u ++ v) (Attributes.readBare v)) := by
  obtain ⟨value, rest, hvalue, hrest⟩ : ∃ value rest,
      v.takeWhile (!isMarkupSpace ·) = value ∧ v.dropWhile (!isMarkupSpace ·) = rest :=
    ⟨_, _, rfl, rfl⟩
  have hv : v = value ++ rest := by rw [← hvalue, ← hrest, List.takeWhile_append_dropWhile]
  have hpart : part (u ++ v).utf8 u.byteCount (byteCount (u ++ value)) = pure value :=
    part_eq (v := rest) (by simp [hv]) rfl rfl
  rw [readBare, asciiClass_isMarkupSpace.not.runEnd_eq, pure_bind, hvalue, hpart, pure_bind,
    Attributes.readBare, hvalue, hrest, placed]
  dsimp only
  rw [hv, ← List.append_assoc, byteCount_sub_append]

theorem readValue_eq (u : Text) (c : Char) (v : Text) :
    readValue (u ++ c :: v).utf8 u.byteCount =
      pure (placed (u ++ c :: v) (Attributes.readValue c v)) := by
  obtain ⟨d, hbyte, hd⟩ := exists_byteAt u c v
  rw [readValue, hbyte, pure_bind, Attributes.readValue]
  by_cases hquote : c = '"' ∨ c = '\''
  · have hascii : c.toNat < 0x80 := by obtain rfl | rfl := hquote <;> decide
    obtain rfl : d = c := hd.resolve_right (by omega)
    have hread := readQuoted_eq hascii (u ++ [d]) v
    rw [List.append_assoc, List.singleton_append, byteCount_append_singleton hascii] at hread
    rw [if_pos (by simpa [isQuote] using hquote), if_pos hquote, hread, pure_bind]
    cases Attributes.readQuoted d v with
    | none => exact readBare_eq u (d :: v)
    | some found => rfl
  · have hnot : isQuote d = false := by
      have hc : isQuote c = false := by simpa [isQuote] using hquote
      obtain rfl | ⟨hd, hascii⟩ := hd
      · exact hc
      · rw [asciiClass_isQuote d c hd hascii, hc]
    rw [hnot, if_neg Bool.false_ne_true, if_neg hquote, readBare_eq]

/-! ## Attributes -/

/-- A key ends with the attribute, at white space or at an equals sign. -/
theorem ascii_of_not_isKeyPart (hc : Attributes.isKeyPart c = false) : c.toNat < 0x80 := by
  by_contra hascii
  have hz := asciiClass_isKeyPart c 'é' (by omega) (by decide)
  rw [hc] at hz
  revert hz
  decide

theorem hasValue_eq (hc : c.toNat < 0x80) (u v : Text) :
    hasValue (u ++ c :: v).utf8 u.byteCount =
      pure (c == '=' && v.head?.any (!isMarkupSpace ·)) := by
  rw [hasValue, (asciiClass_beq (by decide)).isAt_eq, List.head?_cons, Option.any_some,
    ← byteCount_append_singleton hc]
  cases c == '=' with
  | false => rfl
  | true =>
    cases v with
    | nil =>
      rw [length_utf8, decide_eq_false (Nat.lt_irrefl _)]
      rfl
    | cons d v =>
      have hsplit : u ++ c :: d :: v = u ++ [c] ++ d :: v := by simp
      rw [hsplit, decide_eq_true (lt_length_utf8 (u ++ [c]) d v), Bool.true_and, if_pos rfl,
        asciiClass_isMarkupSpace.not.byteAt_eq]
      rfl

theorem readAfterKey_eq (hv : v.head?.any Attributes.isKeyPart = false) (u : Text) :
    readAfterKey (u ++ v).utf8 u.byteCount =
      pure (placed (u ++ v) (Attributes.readAfterKey v)) := by
  cases v with
  | nil =>
    have hvalue : hasValue (u ++ []).utf8 u.byteCount = pure false := by
      rw [hasValue, (asciiClass_beq (by decide)).isAt_eq]
      rfl
    rw [readAfterKey, hvalue, pure_bind, if_neg Bool.false_ne_true, List.append_nil, length_utf8,
      if_neg (Nat.lt_irrefl _)]
    rfl
  | cons c v =>
    have hascii : c.toNat < 0x80 := ascii_of_not_isKeyPart (by simpa using hv)
    have hnext : u.byteCount + 1 = byteCount (u ++ [c]) :=
      (byteCount_append_singleton hascii u).symm
    have hsplit : u ++ c :: v = u ++ [c] ++ v := by simp
    rw [readAfterKey, hasValue_eq hascii, pure_bind]
    cases hvalue : c == '=' && v.head?.any (!isMarkupSpace ·) with
    | false =>
      rw [if_neg Bool.false_ne_true, if_pos (lt_length_utf8 u c v), hnext,
        Attributes.readAfterKey_of_no_value hvalue, placed, hsplit, byteCount_sub_append]
    | true =>
      obtain ⟨hc, hsolid⟩ := Bool.and_eq_true_iff.1 hvalue
      obtain rfl := beq_iff_eq.1 hc
      obtain ⟨d, hd, hsolid⟩ := (Option.any_eq_true _ _).1 hsolid
      obtain ⟨v, rfl⟩ := List.head?_eq_some_iff.1 hd
      rw [if_pos rfl, hnext, hsplit, readValue_eq, pure_bind, Attributes.readAfterKey,
        if_neg (by simpa using hsolid)]
      rfl

/-- Bytes that are of no name are passed over, also inside of characters. -/
theorem attributesFrom_skip {bytes front rest : Bytes}
    (hfront : ∀ b ∈ front, isNameChar (asChar b) = false) {i : Nat}
    (hdrop : bytes.drop i = front ++ rest) (rounds : Nat) :
    attributesFrom bytes (rounds + front.length) i =
      attributesFrom bytes rounds (i + front.length) := by
  induction front generalizing i with
  | nil => rfl
  | cons b front ih =>
    obtain ⟨hb, hfront⟩ := List.forall_mem_cons.1 hfront
    obtain ⟨hget, hlt, hnext⟩ := of_drop_eq_cons hdrop
    have hname : isAt isNameChar bytes i = false := by rw [isAt, hget, Option.any_some, hb]
    have hposition : i + (b :: front).length = i + 1 + front.length := by
      rw [List.length_cons]
      omega
    rw [List.length_cons, ← Nat.add_assoc, attributesFrom, if_pos hlt, hname,
      if_neg Bool.false_ne_true, ih hfront hnext, ← hposition, List.length_cons]

/-- One round at a key. -/
theorem attributesFrom_of_isNameChar (hc : isNameChar c = true) (rounds : Nat) (u v : Text) :
    let found := Attributes.readAfterKey ((c :: v).dropWhile Attributes.isKeyPart)
    attributesFrom (u ++ c :: v).utf8 (rounds + 1) u.byteCount = (do
      let rest ← attributesFrom (u ++ c :: v).utf8 rounds
        (byteCount (u ++ c :: v) - found.2.byteCount)
      pure (((c :: v).takeWhile Attributes.isKeyPart, found.1) :: rest)) := by
  intro found
  have hafter := readAfterKey_eq (head?_dropWhile Attributes.isKeyPart (c :: v))
    (u ++ (c :: v).takeWhile Attributes.isKeyPart)
  have hpart : part (u ++ c :: v).utf8 u.byteCount
      (byteCount (u ++ (c :: v).takeWhile Attributes.isKeyPart)) =
      pure ((c :: v).takeWhile Attributes.isKeyPart) :=
    part_eq (v := (c :: v).dropWhile Attributes.isKeyPart) (by simp) rfl rfl
  rw [List.append_assoc, List.takeWhile_append_dropWhile] at hafter
  rw [attributesFrom, if_pos (lt_length_utf8 u c v), asciiClass_isNameChar.isAt_eq,
    List.head?_cons, Option.any_some, if_pos hc, asciiClass_isKeyPart.runEnd_eq, pure_bind, hpart,
    pure_bind, hafter, pure_bind]
  rfl

theorem attributesFrom_eq {rounds : Nat} (u v : Text) (hrounds : v.byteCount < rounds) :
    attributesFrom (u ++ v).utf8 rounds u.byteCount = pure (Attributes.readFrom 0 v) := by
  induction hn : v.length using Nat.strongRecOn generalizing u v rounds with
  | ind n ih =>
    cases v with
    | nil =>
      obtain ⟨rounds, rfl⟩ : ∃ n, rounds = n + 1 := ⟨rounds - 1, by omega⟩
      rw [List.append_nil, attributesFrom, length_utf8, if_neg (Nat.lt_irrefl _),
        Attributes.readFrom]
    | cons c v =>
      have hcount : byteCount (c :: v) = (String.utf8EncodeChar c).length + byteCount v := by
        rw [byteCount, utf8_cons, List.length_append, length_utf8]
      have hpos := byteCount_pos (List.cons_ne_nil c [])
      rw [byteCount_singleton] at hpos
      cases hc : isNameChar c with
      | false =>
        -- each byte of the character takes a round
        obtain ⟨rounds, rfl⟩ : ∃ n, rounds = n + (String.utf8EncodeChar c).length :=
          ⟨rounds - (String.utf8EncodeChar c).length, by omega⟩
        have hdrop : (u ++ c :: v).utf8.drop u.byteCount = String.utf8EncodeChar c ++ utf8 v := by
          rw [drop_byteCount, utf8_cons]
        have hbytes : ∀ b ∈ String.utf8EncodeChar c, isNameChar (asChar b) = false :=
          fun b hb => (asciiClass_isNameChar.asChar_eq hb).trans hc
        have hfewer : byteCount v < rounds := by omega
        have hnext := ih v.length (by simp [← hn]) (u ++ [c]) v hfewer rfl
        rw [List.append_assoc, List.singleton_append, byteCount_append, byteCount_singleton]
          at hnext
        rw [attributesFrom_skip hbytes hdrop, hnext, Attributes.readFrom_cons_of_not hc]
      | true =>
        obtain ⟨rounds, rfl⟩ : ∃ n, rounds = n + 1 := ⟨rounds - 1, by omega⟩
        obtain ⟨⟨skipped, hskipped⟩, hread⟩ := Attributes.readFrom_of_isNameChar hc v
        rw [attributesFrom_of_isNameChar hc, hread]
        generalize Attributes.readAfterKey ((c :: v).dropWhile Attributes.isKeyPart) = found
          at hskipped ⊢
        subst hskipped
        rw [byteCount_append] at hcount
        have hsplit : u ++ c :: (skipped ++ found.2) = u ++ c :: skipped ++ found.2 := by simp
        have hshort : found.2.length < n := by
          rw [← hn, List.length_cons, List.length_append]
          omega
        rw [hsplit, byteCount_sub_append, ih _ hshort _ _ (by omega) rfl, pure_bind]

/-- Attributes are read by positions as they are character by character. -/
theorem attributes_eq (s : Text) : attributes s.utf8 = pure (Attributes.ofText s).entries :=
  attributesFrom_eq [] s (Nat.lt_succ_self _)

end Indexed

end EdgeInclude
