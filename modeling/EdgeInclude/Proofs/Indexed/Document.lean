import EdgeInclude.Proofs.Indexed.Attribute
import EdgeInclude.Proofs.Markup.Comment

/-!
# Documents by position

Cutting a document and unwrapping its comments by positions in its bytes.

A model by position of `parse::scan` and `parse::rewrite_esi_comments`.

Results:
* `scan_eq`, `unwrap_eq`: both yield what they do character by character.
* `access_safe`: nothing goes wrong in any of it, whatever the document and the namespace.
-/

namespace EdgeInclude

namespace Indexed

open Text Utf8

/-! ## Cutting -/

/-- The fragments of a document from `first` on, where tags are looked for from `cursor` on in no
    more than `rounds` rounds (the loop of `parse::scan`). -/
def scanFrom (ns : Text) (bytes : Bytes) : (rounds first cursor : Nat) → Access (List Fragment)
  | 0, _, _ => throw .rounds
  | rounds + 1, first, cursor => do
    match ← search (opens (utf8 (Tag.opener ns))) bytes cursor with
    | none =>
      let last ← part bytes first bytes.length
      pure [.text last]
    | some start =>
      match ← readTag ns bytes start with
      | none => scanFrom ns bytes rounds first (start + 1)
      | some (t, next) =>
        let before ← part bytes first start
        let after ← scanFrom ns bytes rounds next next
        pure (.text before :: .tag t :: after)

/-- The fragments of a document (`parse::scan`). -/
def scan (ns : Text) (bytes : Bytes) : Access (List Fragment) :=
  scanFrom ns bytes (bytes.length + 1) 0 0

variable {ns : Text}

theorem opener_ne_nil (ns : Text) : Tag.opener ns ≠ [] := List.cons_ne_nil _ _

/-- What a text begins with in any letter case, if that begins with anything but a letter. -/
theorem eq_of_isSome_afterAnyCase? {a c : Char} {lead v : Text} (ha : a.isAlpha = false)
    (h : (afterAnyCase? (a :: lead) (c :: v)).isSome = true) : c = a := by
  obtain ⟨rest, hrest⟩ := Option.isSome_iff_exists.1 h
  obtain ⟨head, hv, hhead⟩ := afterAnyCase?_eq_some_iff.1 hrest
  obtain ⟨tail, rfl, -⟩ := hhead.exists_cons ha
  exact (List.cons.inj hv).1

theorem isSome_afterAnyCase?_of_read? {v : Text} {found : Tag × Text}
    (h : Tag.read? ns v = some found) : (afterAnyCase? (Tag.opener ns) v).isSome = true := by
  rw [Option.isSome_iff_ne_none]
  intro hnone
  rw [Tag.read?, hnone] at h
  cases h

/-- A character that no tag begins at is passed over. -/
theorem scanFrom_of_character {c : Char} {v : Text} (hread : Tag.read? ns (c :: v) = none)
    (rounds first : Nat) (u : Text) :
    scanFrom ns (u ++ c :: v).utf8 (rounds + 1) first u.byteCount =
      if (afterAnyCase? (Tag.opener ns) (c :: v)).isSome then
        scanFrom ns (u ++ c :: v).utf8 rounds first (byteCount (u ++ [c]))
      else scanFrom ns (u ++ c :: v).utf8 (rounds + 1) first (byteCount (u ++ [c])) := by
  have hsearch := (spots_opens (opener_ne_nil ns)).search_cons u c v
  split at hsearch
  · next hopens =>
    have hc : c = '<' := eq_of_isSome_afterAnyCase? (by decide) hopens
    rw [scanFrom, hsearch, pure_bind, if_pos hopens]
    dsimp only
    rw [readTag_eq hopens, hread, Option.map_none, pure_bind]
    dsimp only
    rw [byteCount_append_singleton (hc ▸ by decide)]
  · next hopens => rw [if_neg hopens, scanFrom, scanFrom, hsearch]

/-- One round at a tag. -/
theorem scanFrom_of_tag {v after : Text} {t : Tag} (hread : Tag.read? ns v = some (t, after))
    (rounds first : Nat) (u : Text) :
    scanFrom ns (u ++ v).utf8 (rounds + 1) first u.byteCount = (do
      let before ← part (u ++ v).utf8 first u.byteCount
      let after ← scanFrom ns (u ++ v).utf8 rounds (byteCount (u ++ t.raw)) (byteCount (u ++ t.raw))
      pure (.text before :: .tag t :: after)) := by
  have hopens := isSome_afterAnyCase?_of_read? hread
  obtain ⟨rfl, hcomplete⟩ := Tag.read?_eq_some_iff.1 hread
  obtain ⟨c, raw, hraw⟩ := List.exists_cons_of_ne_nil hcomplete.raw_ne_nil
  have hsearch := (spots_opens (opener_ne_nil ns)).search_cons u c (raw ++ after)
  rw [← List.cons_append, ← hraw, if_pos hopens] at hsearch
  rw [scanFrom, hsearch, pure_bind]
  dsimp only
  rw [readTag_eq hopens, hread, Option.map_some, pure_bind]
  dsimp only
  rw [← List.append_assoc, byteCount_sub_append]

/-- Cutting a document whose tags are looked for behind `p ++ q`, while the text that begins behind
    `p` is not at its end. -/
theorem scanFrom_eq {m : Markup} {v : Text} (h : Markup.Cut ns m v) {rounds : Nat} (p q : Text)
    (hrounds : v.length < rounds) :
    scanFrom ns (p ++ q ++ v).utf8 rounds p.byteCount (byteCount (p ++ q)) =
      pure (.text (q ++ m.lead) :: m.fragments.tail) := by
  induction h generalizing rounds p q with
  | done =>
    obtain ⟨rounds, rfl⟩ : ∃ n, rounds = n + 1 := ⟨rounds - 1, by omega⟩
    rw [List.append_nil, scanFrom, search_nil, pure_bind]
    dsimp only
    rw [part_rest, pure_bind, List.append_nil]
    rfl
  | @character c v m hread _ ih =>
    obtain ⟨rounds, rfl⟩ : ∃ n, rounds = n + 1 := ⟨rounds - 1, by omega⟩
    rw [List.length_cons] at hrounds
    have hsplit : p ++ q ++ c :: v = p ++ (q ++ [c]) ++ v := by simp
    have hnext : ∀ {rounds : Nat}, v.length < rounds →
        scanFrom ns (p ++ q ++ c :: v).utf8 rounds p.byteCount (byteCount (p ++ q ++ [c])) =
          pure (.text (q ++ (m.consChar c).lead) :: (m.consChar c).fragments.tail) := by
      intro rounds hrounds
      have hrest := ih p (q ++ [c]) hrounds
      rw [← hsplit, ← List.append_assoc, List.append_assoc q, List.singleton_append] at hrest
      exact hrest
    rw [scanFrom_of_character hread, hnext (by omega), hnext (by omega), ite_self]
  | @tag v after t m hread _ ih =>
    obtain ⟨rounds, rfl⟩ : ∃ n, rounds = n + 1 := ⟨rounds - 1, by omega⟩
    rw [scanFrom_of_tag hread]
    obtain ⟨rfl, hcomplete⟩ := Tag.read?_eq_some_iff.1 hread
    have hpos := List.length_pos_of_ne_nil hcomplete.raw_ne_nil
    have hpart : part (p ++ q ++ (t.raw ++ after)).utf8 p.byteCount (byteCount (p ++ q)) = pure q :=
      part_eq rfl rfl rfl
    have hafter : after.length < rounds := by
      rw [List.length_append] at hrounds
      omega
    have hnext := ih (p ++ q ++ t.raw) [] hafter
    rw [List.append_nil, List.nil_append, List.append_assoc (p ++ q)] at hnext
    rw [hpart, pure_bind, hnext, pure_bind, ← Markup.fragments_eq_cons, Markup.fragments_consTag,
      List.tail_cons, Markup.consTag, List.append_nil]

/-- A document is cut by positions as it is character by character. -/
theorem scan_eq (ns s : Text) : scan ns s.utf8 = pure (Markup.scan ns s).fragments := by
  have hlength : s.length < s.byteCount + 1 := Nat.lt_succ_of_le (length_le_byteCount s)
  exact scanFrom_eq (Markup.cut_scan ns s) [] [] hlength

/-! ## Unwrapping -/

/-- What a document becomes whose wrappers up to `last` have become `output`, or nothing if there
    are none. -/
def finish (bytes : Bytes) (last : Nat) (output : Text) : Access (Option Text) :=
  if last = 0 then pure none
  else do
    let rest ← part bytes last bytes.length
    pure (some (output ++ rest))

/-- Unwraps the comments of a document from `cursor` on in no more than `rounds` rounds, where the
    document up to `last` has become `output` (the loop of `parse::rewrite_esi_comments`). -/
def unwrapFrom (ns : Text) (bytes : Bytes) :
    (rounds last cursor : Nat) → (output : Text) → Access (Option Text)
  | 0, _, _, _ => throw .rounds
  | rounds + 1, last, cursor, output => do
    match ← search (opens (utf8 (Comment.opener ns))) bytes cursor with
    | none => finish bytes last output
    | some start =>
      let contentStart := start + (utf8 (Comment.opener ns)).length
      if isAt isNameChar bytes contentStart then unwrapFrom ns bytes rounds last contentStart output
      else
        match ← search ((utf8 Comment.closer).isPrefixOf ·) bytes contentStart with
        | none => finish bytes last output
        | some contentEnd =>
          let before ← part bytes last start
          let content ← part bytes contentStart contentEnd
          let next := contentEnd + 3
          unwrapFrom ns bytes rounds next next
            (output ++ before ++ (Comment.varsStart ns ++ content ++ Comment.varsEnd ns))

/-- A document with its comments unwrapped, or nothing if there are none
    (`parse::rewrite_esi_comments`). -/
def unwrap (ns : Text) (bytes : Bytes) : Access (Option Text) :=
  unwrapFrom ns bytes (bytes.length + 1) 0 0 []

theorem commentOpener_ne_nil (ns : Text) : Comment.opener ns ≠ [] := List.cons_ne_nil _ _

theorem closer_ne_nil : Comment.closer ≠ [] := List.cons_ne_nil _ _

theorem hasWrapper_cons {c : Char} {s : Text}
    (h : afterAnyCase? (Comment.opener ns) (c :: s) = none) :
    Comment.hasWrapper ns (c :: s) = Comment.hasWrapper ns s := by
  rw [Comment.hasWrapper, Comment.pieces_cons h]
  rfl

theorem hasWrapper_opener {head : Text} (h : SameText (Comment.opener ns) head) (s : Text) :
    Comment.hasWrapper ns (head ++ s) =
      if Tag.continuesName s then Comment.hasWrapper ns s
      else (splitFirst Comment.closer s).isSome := by
  rw [Comment.hasWrapper, Comment.pieces_opener h]
  split
  · rfl
  · cases splitFirst Comment.closer s <;> rfl

/-- What becomes of a document of which `p` has become `output`, `q` is left over from before, and
    `v` is still to be unwrapped; nothing if it has no wrapper. -/
def unwrapped (ns p q v output : Text) : Option Text :=
  if p = [] ∧ Comment.hasWrapper ns v = false then none
  else some (output ++ q ++ Comment.unwrap ns v)

theorem finish_eq (p v output : Text) :
    finish (p ++ v).utf8 p.byteCount output =
      pure (if p = [] then none else some (output ++ v)) := by
  cases p with
  | nil => rfl
  | cons c p =>
    have hpos := byteCount_pos (List.cons_ne_nil c p)
    rw [finish, if_neg (by omega), part_rest, pure_bind, if_neg (List.cons_ne_nil c p)]

/-- A character that no opener begins at is passed over. -/
theorem unwrapFrom_of_character {c : Char} {v : Text}
    (hc : afterAnyCase? (Comment.opener ns) (c :: v) = none) (rounds last : Nat) (u output : Text) :
    unwrapFrom ns (u ++ c :: v).utf8 rounds last u.byteCount output =
      unwrapFrom ns (u ++ c :: v).utf8 rounds last (byteCount (u ++ [c])) output := by
  have hsearch := (spots_opens (commentOpener_ne_nil ns)).search_cons u c v
  rw [hc, Option.isSome_none, if_neg Bool.false_ne_true] at hsearch
  cases rounds with
  | zero => rfl
  | succ rounds => rw [unwrapFrom, unwrapFrom, hsearch]

/-- One round at an opener: it is passed over if a name goes on behind it, and else what is between
    it and the next closer is wrapped in tags. -/
theorem unwrapFrom_of_opener {head : Text} (hhead : SameText (Comment.opener ns) head)
    (rounds last : Nat) (u v output : Text) :
    unwrapFrom ns (u ++ (head ++ v)).utf8 (rounds + 1) last u.byteCount output =
      if Tag.continuesName v then
        unwrapFrom ns (u ++ (head ++ v)).utf8 rounds last (byteCount (u ++ head)) output
      else
        match splitFirst Comment.closer v with
        | none => finish (u ++ (head ++ v)).utf8 last output
        | some (content, _) => (do
          let before ← part (u ++ (head ++ v)).utf8 last u.byteCount
          let next := byteCount (u ++ head ++ content ++ Comment.closer)
          unwrapFrom ns (u ++ (head ++ v)).utf8 rounds next next
            (output ++ before ++ (Comment.varsStart ns ++ content ++ Comment.varsEnd ns))) := by
  obtain ⟨tail, hhead', -⟩ := hhead.exists_cons (by decide)
  have hopens : (afterAnyCase? (Comment.opener ns) (head ++ v)).isSome = true := by
    rw [afterAnyCase?_eq_some_iff.2 ⟨head, rfl, hhead⟩]
    rfl
  have hsearch := (spots_opens (commentOpener_ne_nil ns)).search_cons u '<' (tail ++ v)
  rw [← List.cons_append, ← hhead', if_pos hopens] at hsearch
  have hstart : u.byteCount + (utf8 (Comment.opener ns)).length = byteCount (u ++ head) := by
    rw [length_utf8, byteCount_append, byteCount_eq_of_sameText hhead]
  have hname := isAt_isNameChar_eq (u ++ head) v
  have hcloser := search_mark closer_ne_nil (u ++ head) v
  rw [List.append_assoc] at hname hcloser
  rw [unwrapFrom, hsearch, pure_bind]
  dsimp only
  rw [hstart, hname, hcloser, pure_bind]
  refine if_congr Iff.rfl rfl ?_
  cases hcut : splitFirst Comment.closer v with
  | none => rfl
  | some cut =>
    obtain ⟨content, after⟩ := cut
    obtain rfl := eq_append_of_splitFirst hcut
    have hcontent : part (u ++ (head ++ (content ++ Comment.closer ++ after))).utf8
        (byteCount (u ++ head)) (byteCount (u ++ head ++ content)) = pure content :=
      part_eq (v := Comment.closer ++ after) (by simp) rfl rfl
    have hend : byteCount (u ++ head ++ content) + 3 =
        byteCount (u ++ head ++ content ++ Comment.closer) := by
      rw [byteCount_append _ Comment.closer]
      rfl
    rw [Option.map_some]
    dsimp only
    rw [hcontent, hend]
    rfl

/-- Unwrapping a document whose openers are looked for behind `p ++ q`, of which `p` has become
    `output`. -/
theorem unwrapFrom_eq (ns v : Text) {rounds : Nat} (p q output : Text)
    (hrounds : v.length < rounds) :
    unwrapFrom ns (p ++ q ++ v).utf8 rounds p.byteCount (byteCount (p ++ q)) output =
      pure (unwrapped ns p q v output) := by
  induction v using Comment.opener_induction ns generalizing rounds p q output with
  | nil =>
    obtain ⟨rounds, rfl⟩ : ∃ n, rounds = n + 1 := ⟨rounds - 1, by omega⟩
    rw [List.append_nil, unwrapFrom, search_nil, pure_bind]
    dsimp only
    rw [finish_eq, unwrapped]
    simp [Comment.hasWrapper, Comment.unwrap, Comment.pieces, Comment.piecesFrom]
  | character c v hc ih =>
    have hsplit : p ++ q ++ c :: v = p ++ (q ++ [c]) ++ v := by simp
    have hrest := ih p (q ++ [c]) output (Nat.lt_of_succ_lt hrounds)
    rw [← hsplit, ← List.append_assoc] at hrest
    rw [unwrapFrom_of_character hc, hrest]
    simp [unwrapped, hasWrapper_cons hc, Comment.unwrap_cons hc]
  | opens head v hhead ih =>
    obtain ⟨rounds, rfl⟩ : ∃ n, rounds = n + 1 := ⟨rounds - 1, by omega⟩
    have hlength : v.length < rounds := by
      obtain ⟨tail, rfl, -⟩ := hhead.exists_cons (by decide)
      rw [List.length_append, List.length_cons] at hrounds
      omega
    have hsplit : p ++ q ++ (head ++ v) = p ++ (q ++ head) ++ v := by simp
    rw [unwrapFrom_of_opener hhead, unwrapped, hasWrapper_opener hhead,
      Comment.unwrap_opener hhead]
    cases Tag.continuesName v with
    | true =>
      have hnext := ih v List.suffix_rfl p (q ++ head) output hlength
      rw [← hsplit, ← List.append_assoc p q head] at hnext
      rw [if_pos rfl, if_pos rfl, if_pos rfl, hnext, unwrapped]
      simp only [List.append_assoc]
    | false =>
      rw [if_neg Bool.false_ne_true, if_neg Bool.false_ne_true, if_neg Bool.false_ne_true]
      cases hcut : splitFirst Comment.closer v with
      | none =>
        have hfinish := finish_eq p (q ++ (head ++ v)) output
        rw [← List.append_assoc] at hfinish
        dsimp only
        rw [hfinish]
        simp
      | some cut =>
        obtain ⟨content, after⟩ := cut
        obtain rfl := eq_append_of_splitFirst hcut
        have hbefore : part (p ++ q ++ (head ++ (content ++ Comment.closer ++ after))).utf8
            p.byteCount (byteCount (p ++ q)) = pure q := part_eq rfl rfl rfl
        have hnil : p ++ q ++ head ++ content ++ Comment.closer ≠ [] :=
          List.append_ne_nil_of_right_ne_nil _ closer_ne_nil
        have hrest : p ++ q ++ head ++ content ++ Comment.closer ++ after =
            p ++ q ++ (head ++ (content ++ Comment.closer ++ after)) := by simp
        have hafter : after.length < rounds := by
          simp only [List.length_append] at hlength
          omega
        have hnext := ih after (List.suffix_append _ _)
          (p ++ q ++ head ++ content ++ Comment.closer) []
          (output ++ q ++ (Comment.varsStart ns ++ content ++ Comment.varsEnd ns)) hafter
        rw [List.append_nil, hrest, unwrapped, if_neg fun h => hnil h.1] at hnext
        dsimp only
        rw [hbefore, pure_bind, hnext]
        simp [Comment.Piece.unwrap]

/-- Comments are unwrapped by positions as they are character by character. -/
theorem unwrap_eq (ns s : Text) :
    unwrap ns s.utf8 =
      pure (if Comment.hasWrapper ns s then some (Comment.unwrap ns s) else none) := by
  have hlength : s.length < s.byteCount + 1 := Nat.lt_succ_of_le (length_le_byteCount s)
  have h := unwrapFrom_eq ns s [] [] [] hlength
  refine h.trans ?_
  rw [unwrapped]
  cases Comment.hasWrapper ns s <;> rfl

/-! ## Safety -/

/-- For every document and every namespace, also outside of ASCII, given by their bytes: cutting the
    document at its tags, unwrapping its comments and reading it as attributes yield what they do
    character by character. A fault is never caught, so none of them reads a byte that is not there,
    cuts out a part whose ends are in the wrong order, out of the bytes or inside of a character, or
    runs on for ever. -/
theorem access_safe (ns s : Text) :
    scan ns s.utf8 = .ok (Markup.scan ns s).fragments ∧
      unwrap ns s.utf8 =
        .ok (if Comment.hasWrapper ns s then some (Comment.unwrap ns s) else none) ∧
      attributes s.utf8 = .ok (Attributes.ofText s).entries :=
  ⟨scan_eq ns s, unwrap_eq ns s, attributes_eq s⟩

end Indexed

end EdgeInclude
