import Mathlib.Tactic.SplitIfs
import QueryAssist.Json.Reader

/-!
# Reading back what was written

A reader that is given the written form of something, with anything behind it, takes just this form
from the left. This is shown here for texts, and for the items between two brackets.

## Main definitions

* `Json.Reads` — a reader takes exactly the given characters
* `Json.Items` — the items between two brackets, each of which is read

## Main results

* `readTextChar_encodeChar` — a character that was escaped is read back
* `readText_quoteText` — a text that was written is read back
* `Items.readSeparated` — items with commas between them are read one after the other
-/

namespace QueryAssist.Json

variable {α β σ : Type} {input rest cs cs' piece : List Char} {pieces : List (List Char)} {a : α}
  {b : β} {c close : Char} {n : Nat} {s s' : σ} {item : σ → Reader σ}

/-! ### Readers -/

/-- The reader takes the characters `cs` from the left of any text that begins with them, and gives
`a`. -/
def Reads (r : Reader α) (cs : List Char) (a : α) : Prop :=
  ∀ rest, r (cs ++ rest) = .ok (a, rest)

theorem run_bind {r : Reader α} {f : α → Reader β} (h : r input = .ok (a, rest)) :
    (r >>= f) input = f a rest := by
  change (r input >>= fun p => f p.1 p.2) = _
  rw [h]
  rfl

theorem run_get_bind (f : List Char → Reader β) (input : List Char) :
    (get >>= f) input = f input input := rfl

theorem run_next_bind (f : Char → Reader β) (c : Char) (rest : List Char) :
    (next >>= f) (c :: rest) = f c rest := rfl

theorem run_peekToken?_bind (h : isBlank c = false) (f : Option Char → Reader β)
    (rest : List Char) : (peekToken? >>= f) (c :: rest) = f (some c) (c :: rest) := by
  have hpeek : peekToken? (c :: rest) = .ok (some c, c :: rest) := by
    have hdrop : (c :: rest).dropWhile isBlank = c :: rest :=
      List.dropWhile_cons_of_neg (by simp [h])
    change Except.ok (((c :: rest).dropWhile isBlank).head?, (c :: rest).dropWhile isBlank) = _
    rw [hdrop, List.head?_cons]
  exact run_bind hpeek

/-- Of two readers each takes its part. -/
theorem Reads.bind {r : Reader α} {f : α → Reader β} (h : Reads r cs a)
    (hf : Reads (f a) cs' b) : Reads (r >>= f) (cs ++ cs') b := by
  intro rest
  rw [List.append_assoc, run_bind (h _), hf]

theorem reads_readColon : Reads readColon [':'] () := by
  intro rest
  have hblank : isBlank ':' = false := by decide
  rw [readColon, List.singleton_append, run_peekToken?_bind hblank]
  rfl

/-! ### Texts -/

theorem hexValue?_hexDigit : ∀ n < 16, hexValue? (Text.hexDigit n) = some n := by decide

theorem reads_readHex4 (h : n < 256) :
    Reads readHex4 ['0', '0', Text.hexDigit (n / 16), Text.hexDigit (n % 16)] n := by
  intro rest
  -- of the four digits the first two are zeros
  have hvalues : ['0', '0', Text.hexDigit (n / 16), Text.hexDigit (n % 16)].mapM hexValue? =
      some [0, 0, n / 16, n % 16] := by
    have hzero : hexValue? '0' = some 0 := by decide
    have hfirst := hexValue?_hexDigit (n / 16) (by omega)
    have hsecond := hexValue?_hexDigit (n % 16) (by omega)
    simp [hzero, hfirst, hsecond]
  have hnumber : ((0 * 16 + 0) * 16 + n / 16) * 16 + n % 16 = n := by omega
  rw [readHex4, run_get_bind]
  simp only [List.cons_append, List.nil_append, List.take_succ_cons, List.take_zero, hvalues,
    hnumber]
  rfl

/-- No control character is half of a surrogate pair. -/
theorem reads_readCodePoint (h : c.toNat < 0x20) :
    Reads readCodePoint
      ['0', '0', Text.hexDigit (c.toNat / 16), Text.hexDigit (c.toNat % 16)] c := by
  intro rest
  have htrailing : isTrailingSurrogate c.toNat = false := by
    simp [isTrailingSurrogate]
    omega
  have hleading : isLeadingSurrogate c.toNat = false := by
    simp [isLeadingSurrogate]
    omega
  rw [readCodePoint, run_bind (reads_readHex4 (by omega) rest), htrailing, hleading,
    Char.ofNat_toNat]
  rfl

theorem reads_readTextChar (hquote : c ≠ '"') (hslash : c ≠ '\\') (hcontrol : ¬ c.toNat < 0x20) :
    Reads readTextChar [c] (some c) := by
  intro rest
  rw [readTextChar, List.singleton_append, run_next_bind, if_neg hquote, if_neg hcontrol,
    if_pos hslash]
  rfl

/-- A character that was escaped is read back. -/
theorem readTextChar_encodeChar (c : Char) : Reads readTextChar (Text.encodeChar c) (some c) := by
  unfold Text.encodeChar
  split_ifs with hquote hslash hback hfeed hnewline hreturn htab hcontrol
  -- the characters that have a letter of their own behind the backslash
  any_goals (subst c; exact fun rest => rfl)
  · intro rest
    change (readCodePoint >>= fun d => Pure.pure (some d)) _ = _
    exact (run_bind (reads_readCodePoint hcontrol rest)).trans rfl
  · exact reads_readTextChar hquote hslash hcontrol

/-- The characters of a text are read behind those that have been read already. -/
theorem readTextFrom_encode (s : List Char) (h : s.length < n) (read : List Char) :
    Reads (readTextFrom n read) (Text.encode s ++ ['"']) (String.ofList (read.reverse ++ s)) := by
  induction s generalizing n read with
  | nil =>
    -- the closing quote takes one step more than there are characters
    cases n with
    | zero => cases h
    | succ n =>
      intro rest
      rw [List.append_nil]
      rfl
  | cons c s ih =>
    cases n with
    | zero => cases h
    | succ n =>
      have hrest := ih (Nat.lt_of_succ_lt_succ h) (c :: read)
      rw [List.reverse_cons, List.append_assoc, List.singleton_append] at hrest
      rw [Text.encode, List.flatMap_cons, List.append_assoc, readTextFrom]
      exact (readTextChar_encodeChar c).bind hrest

theorem length_le_length_encode (s : List Char) : s.length ≤ (Text.encode s).length := by
  induction s with
  | nil => exact Nat.le_refl 0
  | cons c s ih =>
    -- nothing is escaped by nothing
    have hc : 0 < (Text.encodeChar c).length := by
      unfold Text.encodeChar
      split_ifs <;> simp
    have hlength : (Text.encode (c :: s)).length =
        (Text.encodeChar c).length + (Text.encode s).length := by
      simp [Text.encode]
    rw [hlength, List.length_cons]
    omega

/-- A text that was written is read back. -/
theorem readText_quoteText (s : String) : Reads readText (quoteText s) s := by
  intro rest
  have hlength : s.toList.length < (Text.encode s.toList ++ ['"'] ++ rest).length + 1 := by
    have hencode := length_le_length_encode s.toList
    simp only [List.length_append]
    omega
  have hread := readTextFrom_encode s.toList hlength [] rest
  rw [List.reverse_nil, List.nil_append, String.ofList_toList] at hread
  exact hread

/-! ### Items between brackets -/

/-- The text begins with a character that is neither a blank nor the bracket `close`. -/
def BeginsItem (close : Char) (piece : List Char) : Prop :=
  ∃ c rest, piece = c :: rest ∧ isBlank c = false ∧ c ≠ close

/-- The pieces are items, which take the state from `s` to `s'` one after the other. -/
inductive Items (close : Char) (item : σ → Reader σ) : List (List Char) → σ → σ → Prop where
  /-- There are no more items. -/
  | nil {s : σ} : Items close item [] s s
  /-- An item comes before others. -/
  | cons {piece : List Char} {pieces : List (List Char)} {s s' s'' : σ}
    (hbegins : BeginsItem close piece) (hread : Reads (item s) piece s')
    (hrest : Items close item pieces s' s'') : Items close item (piece :: pieces) s s''

theorem BeginsItem.append (h : BeginsItem close piece) (rest : List Char) :
    BeginsItem close (piece ++ rest) := by
  obtain ⟨c, tail, rfl, hc⟩ := h
  exact ⟨c, tail ++ rest, rfl, hc⟩

theorem BeginsItem.commaSeparated (h : BeginsItem close piece) (pieces : List (List Char)) :
    BeginsItem close (commaSeparated (piece :: pieces)) := by
  cases pieces with
  | nil => exact h
  | cons b more => exact h.append _

/-- There are no more items than characters. -/
theorem Items.length_le (h : Items close item pieces s s') :
    pieces.length ≤ (commaSeparated pieces).length := by
  induction h with
  | nil => exact Nat.le_refl 0
  | @cons piece pieces _ _ _ hbegins _ _ ih =>
    obtain ⟨c, tail, rfl, -, -⟩ := hbegins
    cases pieces with
    | nil => simp [Json.commaSeparated]
    | cons b more =>
      simp only [Json.commaSeparated, List.length_append, List.length_cons] at ih ⊢
      omega

/-- Behind the last item the bracket is taken. -/
theorem readMore_of_close (hblank : isBlank close = false)
    (hread : item s input = .ok (s', close :: rest)) :
    readMore close item (n + 1) s input = .ok (s', rest) := by
  rw [readMore, run_bind hread, run_peekToken?_bind hblank]
  dsimp only
  rw [run_next_bind, if_pos rfl]
  rfl

/-- Behind another item its comma is taken. -/
theorem readMore_of_comma (hcomma : close ≠ ',') (hblank : isBlank c = false) (hclose : c ≠ close)
    (hread : item s input = .ok (s', ',' :: c :: rest)) :
    readMore close item (n + 1) s input = readMore close item n s' (c :: rest) := by
  have hcommaBlank : isBlank ',' = false := by decide
  rw [readMore, run_bind hread, run_peekToken?_bind hcommaBlank]
  dsimp only
  rw [run_next_bind, if_neg (Ne.symm hcomma), if_neg (by simp), run_peekToken?_bind hblank]
  dsimp only
  rw [if_neg hclose]

theorem Items.readMore (h : Items close item pieces s s') (hpieces : pieces ≠ [])
    (hblank : isBlank close = false) (hcomma : close ≠ ',') (hn : pieces.length ≤ n) :
    Reads (readMore close item n s) (commaSeparated pieces ++ [close]) s' := by
  induction h generalizing n with
  | nil => exact (hpieces rfl).elim
  | @cons piece pieces _ _ _ _ hread hrest ih =>
    cases n with
    | zero => cases hn
    | succ n =>
      intro rest
      -- behind the item there is the bracket, or a comma and the next item
      cases hrest with
      | nil =>
        rw [Json.commaSeparated, List.append_assoc]
        exact readMore_of_close hblank (hread _)
      | @cons next more _ _ _ hnext _ _ =>
        have htail := ih (List.cons_ne_nil next more) (Nat.le_of_succ_le_succ hn) rest
        obtain ⟨c, tail, heq, hc, hclose⟩ :=
          ((hnext.commaSeparated more).append [close]).append rest
        rw [Json.commaSeparated, List.append_assoc, List.append_assoc, List.cons_append,
          ← List.append_assoc, heq, readMore_of_comma hcomma hc hclose (hread _), ← heq]
        exact htail

/-- Items with commas between them are read one after the other, up to the bracket. -/
theorem Items.readSeparated (h : Items close item pieces s s') (hblank : isBlank close = false)
    (hcomma : close ≠ ',') :
    Reads (readSeparated close item s) (commaSeparated pieces ++ [close]) s' := by
  intro rest
  cases hitems : h with
  | nil =>
    rw [Json.readSeparated, Json.commaSeparated, List.nil_append, List.singleton_append,
      run_peekToken?_bind hblank]
    dsimp only
    rw [if_pos rfl]
    rfl
  | @cons piece more _ _ _ hbegins _ _ =>
    -- the number of characters bounds the number of steps
    have hlength : (piece :: more).length ≤
        (Json.commaSeparated (piece :: more) ++ [close] ++ rest).length + 1 := by
      have hitem := h.length_le
      simp only [List.length_append]
      omega
    have hread := h.readMore (List.cons_ne_nil piece more) hblank hcomma hlength rest
    obtain ⟨c, tail, heq, hc, hclose⟩ := ((hbegins.commaSeparated more).append [close]).append rest
    rw [heq] at hread ⊢
    rw [Json.readSeparated, run_peekToken?_bind hc]
    dsimp only
    rw [if_neg hclose]
    exact hread

end QueryAssist.Json
