import Mathlib.Data.Int.Order.Basic
import Mathlib.Data.Nat.Basic
import Mathlib.Order.Basic
import QueryAssist.Diagnostic.Tracker

/-!
# What the operations of a tracker do

Beginning a scan either refuses a version or hands out a fresh ticket; publishing either drops a
result or puts it in sight; closing forgets a document. Each operation is described by what can be
asked of the tracker afterwards: what is known about each document, and which tickets have been
cancelled.

## Main definitions

* `Tracker.IsStale` — a later version of the document has been taken up
* `Tracker.Accepts` — a ticket may still publish
* `Tracker.WellFormed` — what holds of every tracker that is reached from the empty one

## Main results

* `WellFormed.begin`, `WellFormed.publish`, `WellFormed.close` — the operations keep a tracker
  well-formed
* `WellFormed.exists_get?_publish` — publishing never puts an earlier version in sight
-/

namespace QueryAssist.Tracker

variable {t : Tracker} {uri k : String} {version : Int} {ticket : Ticket}
  {diagnostics : List Diagnostic} {d : Document} {set : DiagnosticSet} {n : Nat}

/-! ### Parts of the operations -/

@[simp] theorem document?_empty : (∅ : Tracker).document? uri = none := rfl

theorem document?_setDocument :
    (t.setDocument uri d).document? k = if k = uri then some d else t.document? k :=
  SortedMap.get?_insert t.documents uri k d

@[simp] theorem isCancelled_setDocument :
    (t.setDocument uri d).isCancelled n = t.isCancelled n := rfl

@[simp] theorem issued_setDocument : (t.setDocument uri d).issued = t.issued := rfl

@[simp] theorem document?_cancelInFlight (o : Option Document) :
    (t.cancelInFlight o).document? k = t.document? k := by
  unfold cancelInFlight
  split <;> rfl

@[simp] theorem issued_cancelInFlight (o : Option Document) :
    (t.cancelInFlight o).issued = t.issued := by
  unfold cancelInFlight
  split <;> rfl

theorem isCancelled_cancelInFlight (o : Option Document) :
    (t.cancelInFlight o).isCancelled n = true ↔
      t.isCancelled n = true ∨ o.bind (·.inFlight) = some n := by
  unfold cancelInFlight
  split
  · rename_i number hnumber
    simp only [isCancelled, List.contains_cons, Bool.or_eq_true, beq_iff_eq, hnumber,
      Option.some.injEq]
    rw [or_comm, eq_comm (a := n)]
  · rename_i hnone
    simp [hnone]

/-! ### Beginning a scan -/

theorem enter_of_document? (h : t.document? uri = some d) : t.enter uri = (d, t) := by
  simp [enter, h]

theorem enter_of_document?_eq_none (h : t.document? uri = none) :
    t.enter uri = ({}, t.setDocument uri {}) := by
  simp [enter, h]

theorem document?_enter (hk : k ≠ uri) : (t.enter uri).2.document? k = t.document? k := by
  unfold enter
  split
  · rfl
  · rw [document?_setDocument, if_neg hk]

@[simp] theorem isCancelled_enter : (t.enter uri).2.isCancelled n = t.isCancelled n := by
  unfold enter
  split <;> rfl

@[simp] theorem issued_enter : (t.enter uri).2.issued = t.issued := by
  unfold enter
  split <;> rfl

theorem inFlight_enter : (t.enter uri).1.inFlight = (t.document? uri).bind (·.inFlight) := by
  unfold enter
  split <;> simp [*]

theorem published_enter : (t.enter uri).1.published = t.get? uri := by
  unfold enter get?
  split <;> simp [*]

theorem isSeen_of_inFlight (h : d.inFlight = some n) : d.isSeen = true := by
  simp [Document.isSeen, h]

theorem isSeen_of_published (h : d.published = some set) : d.isSeen = true := by
  simp [Document.isSeen, h]

/-- A later version of the document has been taken up. -/
def IsStale (t : Tracker) (uri : String) (version : Int) : Prop :=
  ∃ d, t.document? uri = some d ∧ d.isSeen = true ∧ version < d.latestVersion

/-- The tracker after a ticket for a version of a document has been handed out. -/
def withTicket (t : Tracker) (uri : String) (version : Int) : Tracker :=
  let (d, t') := t.enter uri
  let t' := (t'.cancelInFlight d).setDocument uri ⟨version, some t'.issued, d.published⟩
  { t' with issued := t'.issued + 1 }

theorem begin_of_isStale (h : t.IsStale uri version) : t.begin uri version = (none, t) := by
  obtain ⟨d, hd, hseen, hlt⟩ := h
  simp [begin, enter_of_document? hd, hseen, hlt]

/-- Whether a version is refused is decided by what was known about the document before it was
entered. -/
theorem isStale_iff_enter :
    t.IsStale uri version ↔
      ((t.enter uri).1.isSeen && decide (version < (t.enter uri).1.latestVersion)) = true := by
  cases hd : t.document? uri with
  | none => simp [IsStale, hd, enter_of_document?_eq_none hd, Document.isSeen]
  | some d => simp [IsStale, hd, enter_of_document? hd]

theorem begin_of_not_isStale (h : ¬ t.IsStale uri version) :
    t.begin uri version = (some ⟨t.issued, uri, version⟩, t.withTicket uri version) := by
  rw [isStale_iff_enter, Bool.not_eq_true] at h
  simp only [begin, withTicket, h, Bool.false_eq_true, if_false, issued_enter]

theorem document?_withTicket :
    (t.withTicket uri version).document? k =
      if k = uri then some ⟨version, some t.issued, t.get? uri⟩ else t.document? k := by
  have hset : (t.withTicket uri version).document? k =
      if k = uri then some ⟨version, some (t.enter uri).2.issued, (t.enter uri).1.published⟩
      else ((t.enter uri).2.cancelInFlight (t.enter uri).1).document? k :=
    document?_setDocument
  rw [hset, issued_enter, published_enter, document?_cancelInFlight]
  split
  · rfl
  · rename_i hk
    exact document?_enter hk

@[simp] theorem issued_withTicket : (t.withTicket uri version).issued = t.issued + 1 := by
  simp [withTicket]

theorem isCancelled_withTicket :
    (t.withTicket uri version).isCancelled n = true ↔
      t.isCancelled n = true ∨ (t.document? uri).bind (·.inFlight) = some n := by
  have hcancel : (t.withTicket uri version).isCancelled n = true ↔
      (t.enter uri).2.isCancelled n = true ∨ (t.enter uri).1.inFlight = some n :=
    isCancelled_cancelInFlight _
  rw [hcancel, isCancelled_enter, inFlight_enter]

/-- What was published stays in sight while a scan is going on. -/
@[simp] theorem get?_withTicket : (t.withTicket uri version).get? k = t.get? k := by
  simp only [get?, document?_withTicket]
  split
  · rename_i hk
    rw [hk]
    rfl
  · rfl

@[simp] theorem get?_begin : (t.begin uri version).2.get? k = t.get? k := by
  by_cases h : t.IsStale uri version
  · rw [begin_of_isStale h]
  · rw [begin_of_not_isStale h, get?_withTicket]

/-! ### Publishing -/

/-- The ticket has not been cancelled, and its version is the one taken up last. -/
def Accepts (t : Tracker) (ticket : Ticket) : Prop :=
  ∃ d, t.document? ticket.uri = some d ∧ t.isCancelled ticket.number = false ∧
    ticket.version = d.latestVersion

theorem publish_of_not_accepts (h : ¬ t.Accepts ticket) :
    t.publish ticket diagnostics = (false, t) := by
  unfold publish
  split
  · rfl
  · rename_i d hd
    split
    · rfl
    · rename_i hok
      simp only [Bool.or_eq_true, not_or, Bool.not_eq_true, bne_eq_false_iff_eq] at hok
      exact (h ⟨d, hd, hok⟩).elim

theorem publish_of_accepts (h : t.Accepts ticket) :
    t.publish ticket diagnostics =
      (true, t.setDocument ticket.uri
        ⟨ticket.version, none, some ⟨ticket.version, diagnostics⟩⟩) := by
  obtain ⟨d, hd, hlive, hversion⟩ := h
  simp [publish, hd, hlive, hversion]

theorem publish_fst_iff_accepts : (t.publish ticket diagnostics).1 = true ↔ t.Accepts ticket := by
  by_cases h : t.Accepts ticket
  · simp [publish_of_accepts h, h]
  · simp [publish_of_not_accepts h, h]

/-! ### Closing a document -/

theorem document?_close : (t.close uri).document? k = if k = uri then none else t.document? k := by
  have herase : (t.close uri).document? k =
      if k = uri then none else (t.cancelInFlight (t.document? uri)).document? k :=
    SortedMap.get?_erase _ uri k
  rw [herase, document?_cancelInFlight]

@[simp] theorem issued_close : (t.close uri).issued = t.issued := issued_cancelInFlight _

theorem isCancelled_close :
    (t.close uri).isCancelled n = true ↔
      t.isCancelled n = true ∨ (t.document? uri).bind (·.inFlight) = some n :=
  isCancelled_cancelInFlight _

/-! ### What holds of every tracker that is reached -/

/-- Tickets are numbered in the order in which they are handed out, a scan that is going on has
not been cancelled, no version in sight is later than the one taken up last, and nothing is tracked
of which no version has been taken up. -/
structure WellFormed (t : Tracker) : Prop where
  /-- Only tickets that have been handed out are cancelled. -/
  cancelled_lt : ∀ {n}, t.isCancelled n = true → n < t.issued
  /-- A scan that is going on has been given a ticket. -/
  inFlight_lt : ∀ {uri d n}, t.document? uri = some d → d.inFlight = some n → n < t.issued
  /-- A scan that is going on has not been cancelled. -/
  inFlight_live : ∀ {uri d n}, t.document? uri = some d → d.inFlight = some n →
    t.isCancelled n = false
  /-- No ticket belongs to two documents. -/
  inFlight_inj : ∀ {uri uri' d d' n}, t.document? uri = some d → t.document? uri' = some d' →
    d.inFlight = some n → d'.inFlight = some n → uri = uri'
  /-- The version in sight is not later than the one taken up last. -/
  published_le : ∀ {uri d set}, t.document? uri = some d → d.published = some set →
    set.version ≤ d.latestVersion
  /-- A version of every document that is tracked has been taken up. -/
  isSeen : ∀ {uri d}, t.document? uri = some d → d.isSeen = true

@[simp] theorem isCancelled_empty : (∅ : Tracker).isCancelled n = false := rfl

theorem wellFormed_empty : (∅ : Tracker).WellFormed where
  cancelled_lt h := by simp at h
  inFlight_lt h := by simp at h
  inFlight_live h := by simp at h
  inFlight_inj h := by simp at h
  published_le h := by simp at h
  isSeen h := by simp at h

/-- A ticket that has just been handed out has not been cancelled. -/
theorem WellFormed.isCancelled_issued (h : t.WellFormed) : t.isCancelled t.issued = false := by
  by_contra hne
  exact (h.cancelled_lt (Bool.not_eq_false _ ▸ hne)).false

theorem WellFormed.withTicket (h : t.WellFormed) (hstale : ¬ t.IsStale uri version) :
    (t.withTicket uri version).WellFormed where
  cancelled_lt {n} hn := by
    rw [issued_withTicket]
    rcases isCancelled_withTicket.mp hn with hn | hn
    · exact (h.cancelled_lt hn).trans (Nat.lt_succ_self _)
    · obtain ⟨d, hd, hflight⟩ := Option.bind_eq_some_iff.mp hn
      exact (h.inFlight_lt hd hflight).trans (Nat.lt_succ_self _)
  inFlight_lt {k d n} hd hflight := by
    rw [issued_withTicket]
    rw [document?_withTicket] at hd
    split at hd
    · cases hd
      cases hflight
      exact Nat.lt_succ_self _
    · exact (h.inFlight_lt hd hflight).trans (Nat.lt_succ_self _)
  inFlight_live {k d n} hd hflight := by
    rw [document?_withTicket] at hd
    by_contra hne
    -- a ticket was cancelled before, or is the one that was in flight for this document
    rcases isCancelled_withTicket.mp (Bool.not_eq_false _ ▸ hne) with hn | hn
    · split at hd
      · cases hd
        cases hflight
        exact Bool.false_ne_true (h.isCancelled_issued.symm.trans hn)
      · simp [h.inFlight_live hd hflight] at hn
    · obtain ⟨d', hd', hflight'⟩ := Option.bind_eq_some_iff.mp hn
      split at hd
      · cases hd
        cases hflight
        exact (h.inFlight_lt hd' hflight').false
      · rename_i hk
        exact hk (h.inFlight_inj hd hd' hflight hflight')
  inFlight_inj {k k' d d' n} hd hd' hflight hflight' := by
    rw [document?_withTicket] at hd hd'
    split at hd <;> split at hd'
    · rename_i hk hk'
      rw [hk, hk']
    -- the new ticket has a number that no other one has
    · cases hd
      cases hflight
      exact (h.inFlight_lt hd' hflight').false.elim
    · cases hd'
      cases hflight'
      exact (h.inFlight_lt hd hflight).false.elim
    · exact h.inFlight_inj hd hd' hflight hflight'
  published_le {k d set} hd hset := by
    rw [document?_withTicket] at hd
    split at hd
    · cases hd
      obtain ⟨d', hd', hset'⟩ := Option.bind_eq_some_iff.mp hset
      have hseen : d'.isSeen = true := isSeen_of_published hset'
      exact (h.published_le hd' hset').trans (not_lt.mp fun hlt => hstale ⟨d', hd', hseen, hlt⟩)
    · exact h.published_le hd hset
  isSeen {k d} hd := by
    rw [document?_withTicket] at hd
    split at hd
    · cases hd
      exact isSeen_of_inFlight rfl
    · exact h.isSeen hd

/-- Beginning a scan keeps a tracker well-formed. -/
theorem WellFormed.begin (h : t.WellFormed) (uri : String) (version : Int) :
    (t.begin uri version).2.WellFormed := by
  by_cases hstale : t.IsStale uri version
  · rw [begin_of_isStale hstale]
    exact h
  · rw [begin_of_not_isStale hstale]
    exact h.withTicket hstale

/-- Publishing keeps a tracker well-formed, with whatever ticket it is tried. -/
theorem WellFormed.publish (h : t.WellFormed) (ticket : Ticket) (diagnostics : List Diagnostic) :
    (t.publish ticket diagnostics).2.WellFormed := by
  by_cases haccepts : t.Accepts ticket
  case neg =>
    rw [publish_of_not_accepts haccepts]
    exact h
  rw [publish_of_accepts haccepts]
  exact {
    cancelled_lt := h.cancelled_lt
    inFlight_lt := by
      intro k d n hd hflight
      rw [document?_setDocument] at hd
      split at hd
      · cases hd
        cases hflight
      · exact h.inFlight_lt hd hflight
    inFlight_live := by
      intro k d n hd hflight
      rw [document?_setDocument] at hd
      split at hd
      · cases hd
        cases hflight
      · exact h.inFlight_live hd hflight
    inFlight_inj := by
      intro k k' d d' n hd hd' hflight hflight'
      rw [document?_setDocument] at hd hd'
      split at hd <;> split at hd'
      · rename_i hk hk'
        rw [hk, hk']
      · cases hd
        cases hflight
      · cases hd'
        cases hflight'
      · exact h.inFlight_inj hd hd' hflight hflight'
    published_le := by
      intro k d set hd hset
      rw [document?_setDocument] at hd
      split at hd
      · cases hd
        cases hset
        exact le_rfl
      · exact h.published_le hd hset
    isSeen := by
      intro k d hd
      rw [document?_setDocument] at hd
      split at hd
      · cases hd
        exact isSeen_of_published rfl
      · exact h.isSeen hd }

/-- Closing a document keeps a tracker well-formed. -/
theorem WellFormed.close (h : t.WellFormed) (uri : String) : (t.close uri).WellFormed where
  cancelled_lt {n} hn := by
    rw [issued_close]
    rcases isCancelled_close.mp hn with hn | hn
    · exact h.cancelled_lt hn
    · obtain ⟨d, hd, hflight⟩ := Option.bind_eq_some_iff.mp hn
      exact h.inFlight_lt hd hflight
  inFlight_lt {k d n} hd hflight := by
    rw [document?_close] at hd
    split at hd
    · cases hd
    · rw [issued_close]
      exact h.inFlight_lt hd hflight
  inFlight_live {k d n} hd hflight := by
    rw [document?_close] at hd
    split at hd
    · cases hd
    · rename_i hk
      by_contra hne
      -- the ticket that is cancelled belongs to the document that is closed
      rcases isCancelled_close.mp (Bool.not_eq_false _ ▸ hne) with hn | hn
      · simp [h.inFlight_live hd hflight] at hn
      · obtain ⟨d', hd', hflight'⟩ := Option.bind_eq_some_iff.mp hn
        exact hk (h.inFlight_inj hd hd' hflight hflight')
  inFlight_inj {k k' d d' n} hd hd' hflight hflight' := by
    rw [document?_close] at hd hd'
    split at hd <;> split at hd'
    · cases hd
    · cases hd
    · cases hd'
    · exact h.inFlight_inj hd hd' hflight hflight'
  published_le {k d set} hd hset := by
    rw [document?_close] at hd
    split at hd
    · cases hd
    · exact h.published_le hd hset
  isSeen {k d} hd := by
    rw [document?_close] at hd
    split at hd
    · cases hd
    · exact h.isSeen hd

/-- Once a version of a document is in sight, publishing leaves it there or puts a version in
sight that is not earlier. -/
theorem WellFormed.exists_get?_publish (h : t.WellFormed) (hset : t.get? k = some set)
    (ticket : Ticket) (diagnostics : List Diagnostic) :
    ∃ set', (t.publish ticket diagnostics).2.get? k = some set' ∧ set.version ≤ set'.version := by
  by_cases haccepts : t.Accepts ticket
  case neg =>
    rw [publish_of_not_accepts haccepts]
    exact ⟨set, hset, le_rfl⟩
  rw [publish_of_accepts haccepts, get?, document?_setDocument]
  split
  · -- the version that is published is the one taken up last
    rename_i hk
    obtain ⟨d, hd, _, hversion⟩ := haccepts
    obtain ⟨d', hd', hset'⟩ := Option.bind_eq_some_iff.mp hset
    obtain rfl : d' = d := Option.some.inj (hd'.symm.trans (hk ▸ hd))
    exact ⟨_, rfl, hversion ▸ h.published_le hd' hset'⟩
  · exact ⟨set, hset, le_rfl⟩

end QueryAssist.Tracker
