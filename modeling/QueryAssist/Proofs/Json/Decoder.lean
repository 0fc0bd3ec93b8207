import Mathlib.Data.List.Forall2
import Mathlib.Data.List.Perm.Basic
import QueryAssist.Json.Decoder
import QueryAssist.Proofs.Json.Reader
import QueryAssist.Proofs.SortedMap

/-!
# Decoding what was written

A decoder reads back a value if it gets the same from every written form of it, in whatever order
the fields of objects stand. Decoders that are put together from such decoders read back what is put
together from such values.

## Main definitions

* `Json.Reordered` — the same value with the fields of its objects in any order
* `Json.Decoder.ReadsBack` — a decoder gets the same from every written form of a value

## Main results

* `ReadsBack.list`, `ReadsBack.map` — lists and maps are read back
* `ReadsBack.record` — a record is read back, whichever of its fields are there
* `ReadsBack.decode` — so is a document
-/

namespace QueryAssist.Json

variable {α β σ : Type} {k depth : Nat} {v v' : Json} {a : α} {s s' : σ}
  {fields fields' : List (String × Json)}

/-! ### The order of fields -/

/-- The same value with the fields of its objects in any order. -/
inductive Reordered : Json → Json → Prop where
  /-- Everything may stay where it is. -/
  | refl (v : Json) : Reordered v v
  /-- The items of a list stay in their places. -/
  | array {items items' : List Json} (h : List.Forall₂ Reordered items items') :
    Reordered (.array items) (.array items')
  /-- The fields of an object change their places together with their values. -/
  | object {fields moved fields' : List (String × Json)} (hmoved : fields.Perm moved)
    (hkeys : moved.map Prod.fst = fields'.map Prod.fst)
    (hvalues : List.Forall₂ Reordered (moved.map Prod.snd) (fields'.map Prod.snd)) :
    Reordered (.object fields) (.object fields')

/-- The fields have the same keys, and the same values in any order. -/
def SameFields (fields fields' : List (String × Json)) : Prop :=
  List.Forall₂ (fun f f' => f.1 = f'.1 ∧ Reordered f.2 f'.2) fields fields'

theorem sameFields_of_map (hkeys : fields.map Prod.fst = fields'.map Prod.fst)
    (hvalues : List.Forall₂ Reordered (fields.map Prod.snd) (fields'.map Prod.snd)) :
    SameFields fields fields' := by
  induction fields generalizing fields' with
  | nil =>
    cases fields' with
    | nil => exact .nil
    | cons f' fields' => cases hkeys
  | cons f fields ih =>
    cases fields' with
    | nil => cases hkeys
    | cons f' fields' =>
      obtain ⟨hkey, hkeys⟩ := List.cons.inj hkeys
      obtain ⟨hvalue, hvalues⟩ := List.forall₂_cons.mp hvalues
      exact .cons ⟨hkey, hvalue⟩ (ih hkeys hvalues)

/-- The order in which the fields of an object are given is one of the orders in which they may
stand. -/
theorem reordered_ofFields (h : (fields.map Prod.fst).Nodup) :
    Reordered (.ofFields fields) (.object fields) :=
  .object (SortedMap.perm_entries_ofList h) rfl (List.forall₂_same.mpr fun v _ => .refl v)

theorem Reordered.eq_of_text {t : String} (h : Reordered (.text t) v) : v = .text t := by
  cases h with
  | refl => rfl

theorem Reordered.exists_of_array {items : List Json} (h : Reordered (.array items) v) :
    ∃ items', v = .array items' ∧ List.Forall₂ Reordered items items' := by
  cases h with
  | refl => exact ⟨items, rfl, List.forall₂_same.mpr fun v _ => .refl v⟩
  | array h => exact ⟨_, rfl, h⟩

theorem Reordered.exists_of_object (h : Reordered (.object fields) v) :
    ∃ moved fields', v = .object fields' ∧ fields.Perm moved ∧ SameFields moved fields' := by
  cases h with
  | refl => exact ⟨fields, fields, rfl, .refl _, List.forall₂_same.mpr fun f _ => ⟨rfl, .refl f.2⟩⟩
  | object hmoved hkeys hvalues => exact ⟨_, _, rfl, hmoved, sameFields_of_map hkeys hvalues⟩

theorem SameFields.exists_of_mem {f' : String × Json} (h : SameFields fields fields')
    (hf' : f' ∈ fields') : ∃ f ∈ fields, f.1 = f'.1 ∧ Reordered f.2 f'.2 := by
  induction h with
  | nil => cases hf'
  | @cons f _ fields _ hf _ ih =>
    rcases List.mem_cons.mp hf' with rfl | hf'
    · exact ⟨f, List.mem_cons_self, hf⟩
    · obtain ⟨g, hg, hsame⟩ := ih hf'
      exact ⟨g, List.mem_cons_of_mem f hg, hsame⟩

theorem SameFields.keys_eq (h : SameFields fields fields') :
    fields.map Prod.fst = fields'.map Prod.fst := by
  induction h with
  | nil => rfl
  | cons hf _ ih => rw [List.map_cons, List.map_cons, hf.1, ih]

/-! ### Written forms -/

theorem charactersOfItems_eq (items : List Json) :
    charactersOfItems items = items.map characters := by
  induction items with
  | nil => rfl
  | cons v items ih => rw [charactersOfItems, ih, List.map_cons]

/-- The written form of a field. -/
def charactersOfField (f : String × Json) : List Char := quoteText f.1 ++ ':' :: f.2.characters

theorem charactersOfFields_eq (fields : List (String × Json)) :
    charactersOfFields fields = fields.map charactersOfField := by
  induction fields with
  | nil => rfl
  | cons f fields ih => rw [charactersOfFields, ih, List.map_cons, charactersOfField]

theorem beginsItem_charactersOfField (f : String × Json) :
    BeginsItem '\x7d' (charactersOfField f) := ⟨'"', _, rfl, by decide, by decide⟩

/-- Items that only say how the state goes on take it as far as they all say. -/
theorem items_foldl {ι : Type} {close : Char} {item : σ → Reader σ} {pieces : List (List Char)}
    {xs : List ι} (step : σ → ι → σ)
    (h : List.Forall₂ (fun piece x => BeginsItem close piece ∧
      ∀ s, Reads (item s) piece (step s x)) pieces xs) (s : σ) :
    Items close item pieces s (xs.foldl step s) := by
  induction h generalizing s with
  | nil => exact .nil
  | cons hpiece _ ih => exact .cons hpiece.1 (hpiece.2 s) (ih _)

/-- What two lists have to do with a third one item by item they have to do with each other. -/
theorem forall₂_of_common {γ : Type} {R : α → β → Prop} {S : α → γ → Prop} {T : β → γ → Prop}
    {xs : List α} {ys : List β} {zs : List γ} (h : ∀ x y z, R x y → S x z → T y z)
    (hR : List.Forall₂ R xs ys) (hS : List.Forall₂ S xs zs) : List.Forall₂ T ys zs := by
  induction hR generalizing zs with
  | nil =>
    cases hS
    exact .nil
  | cons hxy _ ih =>
    cases hS with
    | cons hxz hS => exact .cons (h _ _ _ hxy hxz) (ih hS)

namespace Decoder

/-! ### Values of one kind -/

/-- From every written form of `v` the decoder gets `a`, with at least `k` brackets left to nest.
The form can stand in a list. -/
def ReadsBack (decoder : Decoder α) (k : Nat) (v : Json) (a : α) : Prop :=
  ∀ v', Reordered v v' → BeginsItem ']' v'.characters ∧
    ∀ depth, k ≤ depth → Reads (decoder depth) v'.characters a

theorem ReadsBack.mono {decoder : Decoder α} {k' : Nat} (h : ReadsBack decoder k v a)
    (hk : k ≤ k') : ReadsBack decoder k' v a := fun v' hv =>
  ⟨(h v' hv).1, fun depth hdepth => (h v' hv).2 depth (Nat.le_trans hk hdepth)⟩

/-- What is made of a value that is read back is read back. -/
theorem ReadsBack.comp {decoder : Decoder α} (h : ReadsBack decoder k v a) (f : α → β) :
    ReadsBack (fun depth => do return f (← decoder depth)) k v (f a) := fun v' hv =>
  ⟨(h v' hv).1, fun depth hdepth rest => run_bind ((h v' hv).2 depth hdepth rest)⟩

/-- A text has only one written form. -/
theorem readsBack_text_iff {decoder : Decoder α} {t : String} :
    ReadsBack decoder k (.text t) a ↔
      ∀ depth, k ≤ depth → Reads (decoder depth) (quoteText t) a := by
  constructor
  · intro h
    exact (h _ (.refl _)).2
  · intro h v' hv
    rw [hv.eq_of_text]
    exact ⟨⟨'"', _, rfl, by decide, by decide⟩, h⟩

theorem run_peekToken?_quoteText (f : Option Char → Reader β) (t : String) (rest : List Char) :
    (peekToken? >>= f) (quoteText t ++ rest) = f (some '"') (quoteText t ++ rest) :=
  run_peekToken?_bind (by decide) f _

theorem ReadsBack.text (t : String) : ReadsBack Decoder.text 0 (.text t) t := by
  refine readsBack_text_iff.mpr fun depth _ rest => ?_
  rw [Decoder.text, run_peekToken?_quoteText]
  exact readText_quoteText t rest

theorem ReadsBack.optional (t : String) :
    ReadsBack (Decoder.optional .text) 0 (.text t) (some t) := by
  refine readsBack_text_iff.mpr fun depth hdepth rest => ?_
  rw [Decoder.optional, run_peekToken?_quoteText]
  exact run_bind (readsBack_text_iff.mp (ReadsBack.text t) depth hdepth rest)

theorem ReadsBack.value_text (t : String) : ReadsBack Decoder.value 0 (.text t) (.text t) := by
  refine readsBack_text_iff.mpr fun depth _ rest => ?_
  -- whether brackets may be nested does not matter
  have hscalar : readScalar (quoteText t ++ rest) = .ok (.text t, rest) := by
    rw [readScalar, run_peekToken?_quoteText]
    exact run_bind (readText_quoteText t rest)
  cases depth with
  | zero =>
    rw [Decoder.value, readValue, run_peekToken?_quoteText]
    exact hscalar
  | succ depth =>
    rw [Decoder.value, readValue, run_peekToken?_quoteText]
    exact hscalar

/-! ### Lists and maps -/

/-- A value in brackets needs one bracket more than what is in them. -/
theorem ReadsBack.of_succ {decoder : Decoder α} (h : ∀ v', Reordered v v' →
    BeginsItem ']' v'.characters ∧
      ∀ depth, k ≤ depth → Reads (decoder (depth + 1)) v'.characters a) :
    ReadsBack decoder (k + 1) v a := by
  intro v' hv
  refine ⟨(h v' hv).1, fun depth hdepth => ?_⟩
  cases depth with
  | zero => cases hdepth -- there would be no bracket left
  | succ depth => exact (h v' hv).2 depth (Nat.le_of_succ_le_succ hdepth)

theorem run_list (inner : Decoder α) (depth : Nat) (rest : List Char) :
    Decoder.list inner (depth + 1) ('[' :: rest) =
      (do
        let items ← readSeparated ']' (fun items => do return (← inner depth) :: items) []
        return items.reverse : Reader (List α)) rest := rfl

theorem ReadsBack.list {inner : Decoder α} {items : List Json} {as : List α}
    (h : List.Forall₂ (ReadsBack inner k) items as) :
    ReadsBack (Decoder.list inner) (k + 1) (.array items) as := by
  refine ReadsBack.of_succ fun v' hv => ?_
  obtain ⟨items', rfl, hitems⟩ := hv.exists_of_array
  refine ⟨⟨'[', _, rfl, by decide, by decide⟩, fun depth hdepth rest => ?_⟩
  have hforms : List.Forall₂ (fun piece a => BeginsItem ']' piece ∧ ∀ read : List α,
      Reads (do return (← inner depth) :: read) piece (a :: read)) (items'.map characters) as := by
    refine List.forall₂_map_left_iff.mpr (forall₂_of_common ?_ hitems h)
    intro v v' a hvalue hback
    obtain ⟨hbegins, hread⟩ := hback v' hvalue
    exact ⟨hbegins, fun read rest => run_bind (hread depth hdepth rest)⟩
  -- the items are collected with the last one first
  have hread := (items_foldl _ hforms []).readSeparated (by decide) (by decide) rest
  have hreverse : (as.foldl (fun read a => a :: read) []).reverse = as := by simp
  rw [characters, charactersOfItems_eq, List.cons_append, run_list, run_bind hread, hreverse]
  rfl

/-- A list is read back if its items are. -/
theorem ReadsBack.list_map {inner : Decoder α} {g : α → Json} (h : ∀ a, ReadsBack inner k (g a) a)
    (as : List α) : ReadsBack (Decoder.list inner) (k + 1) (.array (as.map g)) as :=
  ReadsBack.list (List.forall₂_map_left_iff.mpr (List.forall₂_same.mpr fun a _ => h a))

/-- The fields are read as the entries, one by one. -/
def ReadsEntries (inner : Decoder α) (k : Nat) (fields : List (String × Json))
    (entries : List (String × α)) : Prop :=
  List.Forall₂ (fun f e => f.1 = e.1 ∧ ReadsBack inner k f.2 e.2) fields entries

/-- The entries of an object are read in the order in which its fields stand. -/
theorem ReadsEntries.exists_items {inner : Decoder α} {entries : List (String × α)}
    (h : ReadsEntries inner k fields entries) (hv : Reordered (.object fields) v)
    (step : σ → String → α → σ) :
    ∃ (fields' : List (String × Json)) (entries' : List (String × α)),
      v = .object fields' ∧ entries'.Perm entries ∧ ∀ depth, k ≤ depth → ∀ s,
        Items '\x7d' (fun s => do
            let key ← readText
            readColon
            return step s key (← inner depth))
          (charactersOfFields fields') s (entries'.foldl (fun s e => step s e.1 e.2) s) := by
  obtain ⟨moved, fields', rfl, hmoved, hsame⟩ := hv.exists_of_object
  -- the entries are moved together with the fields that they are read from
  obtain ⟨entries', hentries', hperm⟩ := List.perm_comp_forall₂ hmoved.symm h
  refine ⟨fields', entries', rfl, hperm, fun depth hdepth s => ?_⟩
  rw [charactersOfFields_eq]
  refine items_foldl _ (List.forall₂_map_left_iff.mpr (forall₂_of_common ?_ hsame hentries')) s
  rintro f f' ⟨key, a⟩ ⟨hkey, hvalue⟩ ⟨hkey', hread⟩
  refine ⟨beginsItem_charactersOfField f', fun s => ?_⟩
  have hinner : Reads (inner depth) f'.2.characters a := (hread _ hvalue).2 depth hdepth
  rw [charactersOfField, ← hkey, hkey']
  exact (readText_quoteText key).bind (reads_readColon.bind fun rest => run_bind (hinner rest))

theorem ReadsBack.map {inner : Decoder α} {m : SortedMap α}
    (h : ReadsEntries inner k fields m.entries) :
    ReadsBack (Decoder.map inner) (k + 1) (.object fields) m := by
  refine ReadsBack.of_succ fun v' hv => ?_
  obtain ⟨fields', entries, rfl, hperm, hitems⟩ := h.exists_items hv SortedMap.insert
  refine ⟨⟨'\x7b', _, rfl, by decide, by decide⟩, fun depth hdepth rest => ?_⟩
  have hm : entries.foldl (fun m e => m.insert e.1 e.2) ∅ = m := SortedMap.ofList_eq_of_perm hperm
  have hread := (hitems depth hdepth ∅).readSeparated (by decide) (by decide) rest
  rw [hm] at hread
  rw [characters, List.cons_append]
  exact hread

/-- A map is read back if its values are. -/
theorem ReadsBack.map_map {inner : Decoder α} {g : α → Json} (h : ∀ a, ReadsBack inner k (g a) a)
    (m : SortedMap α) :
    ReadsBack (Decoder.map inner) (k + 1) (.object (m.map fun _ a => g a).entries) m :=
  ReadsBack.map (List.forall₂_map_left_iff.mpr (List.forall₂_same.mpr fun e _ => ⟨rfl, h e.2⟩))

theorem run_value_object (depth : Nat) (rest : List Char) :
    Decoder.value (depth + 1) ('\x7b' :: rest) =
      (do
        let fields ← readSeparated '\x7d' (fun fields => do
          let key ← readText
          readColon
          return insertEntry key (← Decoder.value depth) fields) []
        return .object fields : Reader Json) rest := rfl

/-- A value with sorted fields is read back as such. -/
theorem ReadsBack.value_object {m : SortedMap Json} (h : ReadsEntries value k m.entries m.entries) :
    ReadsBack Decoder.value (k + 1) (.object m.entries) (.object m.entries) := by
  refine ReadsBack.of_succ fun v' hv => ?_
  obtain ⟨fields', entries, rfl, hperm, hitems⟩ :=
    h.exists_items hv fun fields key v => insertEntry key v fields
  refine ⟨⟨'\x7b', _, rfl, by decide, by decide⟩, fun depth hdepth rest => ?_⟩
  -- the fields are put in order again as they are read
  have hm : entries.foldl (fun fields e => insertEntry e.1 e.2 fields) [] = m.entries := by
    rw [← SortedMap.ofList_eq_of_perm hperm]
    exact (SortedMap.entries_foldl_insert entries ∅).symm
  have hread := (hitems depth hdepth []).readSeparated (by decide) (by decide) rest
  rw [hm] at hread
  rw [characters, List.cons_append]
  exact (run_value_object depth _).trans (run_bind hread)

/-! ### Records -/

variable {known : List (Field σ)} {field : Field σ} {key : String} {seen : List String}

/-- A field is read back by setting it to what its value is read as. -/
theorem ReadsBack.default {value : Decoder α} {k' : Nat} {set : σ → α → σ}
    (h : ReadsBack value k v a) (hk : k ≤ k') (hset : set s a = s') :
    ReadsBack ((Field.default key value set).read s) k' v s' :=
  hset ▸ (h.mono hk).comp (set s)

theorem ReadsBack.orKey (h : ReadsBack (field.read s) k v s') (other : String) :
    ReadsBack ((field.orKey other).read s) k v s' := h

theorem ReadsBack.require (h : ReadsBack (field.read s) k v s') :
    ReadsBack (field.require.read s) k v s' := h

theorem reads_readField {cs : List Char} (hfind : known.find? (·.accepts key) = some field)
    (hname : field.name = key) (hnew : key ∉ seen) (hread : Reads (field.read s depth) cs s') :
    Reads (readField known depth (s, seen)) (quoteText key ++ ':' :: cs) (s', key :: seen) := by
  intro rest
  -- the field is not refused as a repeated one
  have hunseen : seen.contains field.name = false := by simpa [hname] using hnew
  rw [readField, List.append_assoc, run_bind (readText_quoteText key _), hfind]
  dsimp only
  rw [hunseen, if_neg Bool.false_ne_true]
  refine (run_bind (reads_readColon (cs ++ rest))).trans ?_
  rw [run_bind (hread rest), hname]
  rfl

theorem items_readField {part : List String → σ} (h : ∀ f ∈ fields, ∃ field : Field σ,
      known.find? (·.accepts f.1) = some field ∧ field.name = f.1 ∧
        ∀ seen, Reads (field.read (part seen) depth) f.2.characters (part (f.1 :: seen)))
    (hkeys : (fields.map Prod.fst).Nodup) (hnew : ∀ key ∈ fields.map Prod.fst, key ∉ seen) :
    Items '\x7d' (readField known depth) (charactersOfFields fields) (part seen, seen)
      (part ((fields.map Prod.fst).reverse ++ seen), (fields.map Prod.fst).reverse ++ seen) := by
  induction fields generalizing seen with
  | nil => exact .nil
  | cons f fields ih =>
    obtain ⟨field, hfind, hname, hread⟩ := h f List.mem_cons_self
    obtain ⟨hf, hkeys⟩ := List.nodup_cons.mp hkeys
    obtain ⟨hfnew, hnew⟩ := List.forall_mem_cons.mp hnew
    have hnew' : ∀ key ∈ fields.map Prod.fst, key ∉ f.1 :: seen := by
      intro key hkey hseen
      rcases List.mem_cons.mp hseen with rfl | hseen
      · exact hf hkey
      · exact hnew key hkey hseen
    have hrest := ih (fun f' hf' => h f' (List.mem_cons_of_mem f hf')) hkeys hnew'
    rw [List.map_cons, List.reverse_cons, List.append_assoc, List.singleton_append]
    exact .cons (beginsItem_charactersOfField f)
      (reads_readField hfind hname hfnew (hread seen)) hrest

/-- The fields of an object are read one after the other, and none that is required is missing. -/
theorem reads_readFields {start : σ} {part : List String → σ} (hstart : part [] = start)
    (h : ∀ f ∈ fields, ∃ field : Field σ, known.find? (·.accepts f.1) = some field ∧
      field.name = f.1 ∧
        ∀ seen, Reads (field.read (part seen) depth) f.2.characters (part (f.1 :: seen)))
    (hkeys : (fields.map Prod.fst).Nodup)
    (hrequired : (known.filter (·.required)).map (·.name) ⊆ fields.map Prod.fst) :
    Reads (readFields known depth start) (commaSeparated (charactersOfFields fields) ++ ['\x7d'])
      (part (fields.map Prod.fst).reverse) := by
  intro rest
  have hnone : ∀ key ∈ fields.map Prod.fst, key ∉ [] := fun _ _ => List.not_mem_nil
  have hread := (items_readField h hkeys hnone).readSeparated (by decide) (by decide) rest
  rw [hstart, List.append_nil] at hread
  -- only what is required could be missing
  have hmissing : known.find? (fun field => field.required &&
      !(fields.map Prod.fst).reverse.contains field.name) = none := by
    refine List.find?_eq_none.mpr fun field hfield hmissing => ?_
    obtain ⟨hfieldRequired, hunseen⟩ := Bool.and_eq_true_iff.mp hmissing
    have hmem : field.name ∈ fields.map Prod.fst :=
      hrequired (List.mem_map_of_mem (List.mem_filter.mpr ⟨hfield, hfieldRequired⟩))
    rw [List.contains_iff_mem.mpr (List.mem_reverse.mpr hmem)] at hunseen
    cases hunseen
  rw [readFields, run_bind hread]
  dsimp only
  rw [hmissing]
  rfl

/-- A record is read back field by field, in whatever order the fields stand; `part` tells what it
is when the fields with the given keys have been read. -/
theorem ReadsBack.record {start : σ} (part : List String → σ) (hstart : part [] = start)
    (hkeys : (fields.map Prod.fst).Nodup)
    (h : ∀ f ∈ fields, ∃ field : Field σ, known.find? (·.accepts f.1) = some field ∧
      field.name = f.1 ∧ ∀ seen, ReadsBack (field.read (part seen)) k f.2 (part (f.1 :: seen)))
    (hrequired : (known.filter (·.required)).map (·.name) ⊆ fields.map Prod.fst)
    (hpart : ∀ seen, (∀ key, key ∈ seen ↔ key ∈ fields.map Prod.fst) → part seen = s) :
    ReadsBack (Decoder.record known start) (k + 1) (.ofFields fields) s := by
  refine ReadsBack.of_succ fun v' hv => ?_
  obtain ⟨moved, fields', rfl, hmoved, hsame⟩ := hv.exists_of_object
  refine ⟨⟨'\x7b', _, rfl, by decide, by decide⟩, fun depth hdepth rest => ?_⟩
  -- the fields that are read are those that were written, with their values in some order
  have hperm : moved.Perm fields := hmoved.symm.trans (SortedMap.perm_entries_ofList hkeys)
  have hpermKeys : (fields'.map Prod.fst).Perm (fields.map Prod.fst) :=
    hsame.keys_eq ▸ hperm.map Prod.fst
  have hfields : ∀ f' ∈ fields', ∃ field : Field σ,
      known.find? (·.accepts f'.1) = some field ∧ field.name = f'.1 ∧
        ∀ seen, Reads (field.read (part seen) depth) f'.2.characters (part (f'.1 :: seen)) := by
    intro f' hf'
    obtain ⟨f, hf, hkey, hvalue⟩ := hsame.exists_of_mem hf'
    obtain ⟨field, hfind, hname, hback⟩ := h f (hperm.mem_iff.mp hf)
    rw [← hkey]
    exact ⟨field, hfind, hname, fun seen => (hback seen _ hvalue).2 depth hdepth⟩
  have hread := reads_readFields hstart hfields (hpermKeys.nodup_iff.mpr hkeys)
    (fun key hkey => hpermKeys.mem_iff.mpr (hrequired hkey)) rest
  have hs : part (fields'.map Prod.fst).reverse = s := by
    apply hpart
    intro key
    rw [List.mem_reverse, hpermKeys.mem_iff]
  rw [hs] at hread
  exact hread

/-! ### Documents -/

/-- A document that was written is decoded. -/
theorem ReadsBack.decode {decoder : Decoder α} (h : ReadsBack decoder k v a) (hk : k ≤ maxDepth)
    (hv : Reordered v v') : decoder.decode v'.render = .ok a := by
  have hread := (h v' hv).2 maxDepth hk []
  rw [List.append_nil] at hread
  have hrun : (decoder maxDepth).run v'.render.toList = .ok (a, []) := by
    rw [render, String.toList_ofList]
    exact hread
  rw [Decoder.decode, hrun]
  rfl

end Decoder

end QueryAssist.Json
