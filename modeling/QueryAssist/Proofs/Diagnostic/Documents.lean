import QueryAssist.Proofs.Diagnostic.History

/-!
# What operations do to documents

Scans begin, results are published and documents are closed in any order, and results are tried
with any tickets. Every operation is about one document and leaves the others alone. As long as a
document is not closed its versions go up, and an operation that is refused has not happened.

## Main definitions

* `Tracker.perform`, `Tracker.performAll` — the tracker after operations
* `Tracker.Reachable` — the trackers that operations lead to from the empty one
* `Tracker.Document.IsFollowedBy` — the versions of a document have not gone down

## Main results

* `Reachable.wellFormed` — the invariant of all trackers that are reached
* `begin_snd_eq_self`, `publish_snd_eq_self` — what is refused changes nothing
* `WellFormed.exists_document?_performAll` — versions go up until a document is closed
* `Reachable.keeps_documents` — all of this together
-/

namespace QueryAssist.Tracker

/-- The document that an operation is about. -/
def Operation.uri : Operation → String
  | begin uri _ => uri
  | publish ticket _ => ticket.uri
  | close uri => uri

/-- The tracker after an operation. A result is tried with whatever ticket it comes with. -/
def perform (t : Tracker) : Operation → Tracker
  | .begin uri version => (t.begin uri version).2
  | .publish ticket diagnostics => (t.publish ticket diagnostics).2
  | .close uri => t.close uri

/-- The tracker after operations, one after the other. -/
def performAll (t : Tracker) (operations : List Operation) : Tracker := operations.foldl perform t

/-- Some operations lead to the tracker from the empty one. -/
def Reachable (t : Tracker) : Prop := ∃ operations, performAll ∅ operations = t

variable {t : Tracker} {uri : String} {version : Int} {ticket : Ticket} {operation : Operation}
  {operations : List Operation} {diagnostics : List Diagnostic} {d d' d'' : Document} {n : Nat}

/-! ### What is refused -/

/-- A version that is refused leaves the tracker as it is, although its document is entered before
the version is looked at. -/
theorem begin_snd_eq_self (h : (t.begin uri version).1 = none) : (t.begin uri version).2 = t := by
  by_cases hstale : t.IsStale uri version
  · rw [begin_of_isStale hstale]
  · rw [begin_of_not_isStale hstale] at h
    cases h

/-- A result that is dropped leaves the tracker as it is. -/
theorem publish_snd_eq_self (h : (t.publish ticket diagnostics).1 = false) :
    (t.publish ticket diagnostics).2 = t := by
  by_cases haccepts : t.Accepts ticket
  · rw [publish_of_accepts haccepts] at h
    cases h
  · rw [publish_of_not_accepts haccepts]

/-! ### Other documents -/

/-- An operation on one document leaves what is known about the others as it is. -/
theorem document?_perform (h : uri ≠ operation.uri) :
    (t.perform operation).document? uri = t.document? uri := by
  cases operation with
  | begin uri' version =>
    by_cases hstale : t.IsStale uri' version
    · rw [perform, begin_of_isStale hstale]
    · rw [perform, begin_of_not_isStale hstale, document?_withTicket]
      exact if_neg h
  | publish ticket diagnostics =>
    by_cases haccepts : t.Accepts ticket
    · rw [perform, publish_of_accepts haccepts, document?_setDocument]
      exact if_neg h
    · rw [perform, publish_of_not_accepts haccepts]
  | close uri' =>
    rw [perform, document?_close]
    exact if_neg h

/-- No operation cancels a ticket other than that of the scan of its own document. -/
theorem isCancelled_perform (h : (t.perform operation).isCancelled n = true) :
    t.isCancelled n = true ∨ (t.document? operation.uri).bind (·.inFlight) = some n := by
  cases operation with
  | begin uri version =>
    by_cases hstale : t.IsStale uri version
    · rw [perform, begin_of_isStale hstale] at h
      exact Or.inl h
    · rw [perform, begin_of_not_isStale hstale] at h
      exact isCancelled_withTicket.mp h
  | publish ticket diagnostics =>
    by_cases haccepts : t.Accepts ticket
    · rw [perform, publish_of_accepts haccepts] at h
      exact Or.inl h
    · rw [perform, publish_of_not_accepts haccepts] at h
      exact Or.inl h
  | close uri => exact isCancelled_close.mp h

/-! ### Trackers that are reached -/

theorem WellFormed.perform (h : t.WellFormed) (operation : Operation) :
    (t.perform operation).WellFormed := by
  cases operation with
  | begin uri version => exact h.begin uri version
  | publish ticket diagnostics => exact h.publish ticket diagnostics
  | close uri => exact h.close uri

theorem WellFormed.performAll (h : t.WellFormed) (operations : List Operation) :
    (t.performAll operations).WellFormed := by
  induction operations generalizing t with
  | nil => exact h
  | cons operation operations ih => exact ih (h.perform operation)

theorem Reachable.wellFormed (h : t.Reachable) : t.WellFormed := by
  obtain ⟨operations, rfl⟩ := h
  exact wellFormed_empty.performAll operations

/-! ### Versions of a document -/

/-- Neither the version taken up last nor the one in sight is earlier in `d'` than in `d`. -/
structure Document.IsFollowedBy (d d' : Document) : Prop where
  /-- The version taken up last has not gone down. -/
  latestVersion_le : d.latestVersion ≤ d'.latestVersion
  /-- What is in sight stays there or is replaced, and its version does not go down. -/
  exists_published : ∀ {set}, d.published = some set →
    ∃ set', d'.published = some set' ∧ set.version ≤ set'.version

theorem Document.IsFollowedBy.refl (d : Document) : d.IsFollowedBy d where
  latestVersion_le := le_rfl
  exists_published h := ⟨_, h, le_rfl⟩

theorem Document.IsFollowedBy.trans (h : d.IsFollowedBy d') (h' : d'.IsFollowedBy d'') :
    d.IsFollowedBy d'' where
  latestVersion_le := h.latestVersion_le.trans h'.latestVersion_le
  exists_published hset := by
    obtain ⟨set', hset', hle⟩ := h.exists_published hset
    obtain ⟨set'', hset'', hle'⟩ := h'.exists_published hset'
    exact ⟨set'', hset'', hle.trans hle'⟩

/-- A document that is tracked is still tracked after an operation that does not close it, and its
versions have not gone down. -/
theorem WellFormed.exists_document?_perform (h : t.WellFormed) (hd : t.document? uri = some d)
    (hop : operation ≠ .close uri) :
    ∃ d', (t.perform operation).document? uri = some d' ∧ d.IsFollowedBy d' := by
  by_cases huri : uri = operation.uri
  case neg => exact ⟨d, (document?_perform huri).trans hd, .refl d⟩
  cases operation with
  | begin uri' version =>
    obtain rfl : uri = uri' := huri
    by_cases hstale : t.IsStale uri version
    · refine ⟨d, ?_, .refl d⟩
      rw [Tracker.perform, begin_of_isStale hstale, hd]
    · refine ⟨⟨version, some t.issued, t.get? uri⟩, ?_, ?_, ?_⟩
      · rw [Tracker.perform, begin_of_not_isStale hstale, document?_withTicket, if_pos rfl]
      · exact not_lt.mp fun hlt => hstale ⟨d, hd, h.isSeen hd, hlt⟩
      · -- what was in sight before the scan stays there
        intro set hset
        exact ⟨set, by rw [get?, hd, Option.bind_some, hset], le_rfl⟩
  | publish ticket diagnostics =>
    obtain rfl : uri = ticket.uri := huri
    by_cases haccepts : t.Accepts ticket
    · refine ⟨⟨ticket.version, none, some ⟨ticket.version, diagnostics⟩⟩, ?_, ?_⟩
      · rw [Tracker.perform, publish_of_accepts haccepts, document?_setDocument, if_pos rfl]
      · obtain ⟨d', hd', -, hversion⟩ := haccepts
        obtain rfl : d' = d := Option.some.inj (hd'.symm.trans hd)
        exact ⟨hversion.ge, fun hset => ⟨_, rfl, hversion ▸ h.published_le hd hset⟩⟩
    · refine ⟨d, ?_, .refl d⟩
      rw [Tracker.perform, publish_of_not_accepts haccepts, hd]
  | close uri' => exact (hop (congrArg Operation.close huri.symm)).elim

/-- Until it is closed a document is tracked, and its versions do not go down. -/
theorem WellFormed.exists_document?_performAll (h : t.WellFormed) (hd : t.document? uri = some d)
    (hopen : .close uri ∉ operations) :
    ∃ d', (t.performAll operations).document? uri = some d' ∧ d.IsFollowedBy d' := by
  induction operations generalizing t d with
  | nil => exact ⟨d, hd, .refl d⟩
  | cons operation operations ih =>
    rw [List.mem_cons, not_or] at hopen
    obtain ⟨d', hd', hfollows⟩ := h.exists_document?_perform hd (Ne.symm hopen.1)
    obtain ⟨d'', hd'', hfollows'⟩ := ih (h.perform operation) hd' hopen.2
    exact ⟨d'', hd'', hfollows.trans hfollows'⟩

/-- In a tracker that is reached, a scan of every document is going on or has been published, a scan
that is going on has not been cancelled, and the version in sight is not later than the one taken
up last. Until a document is closed its versions do not go down. A version that is refused and a
result that is dropped leave the tracker and all tickets as they are, and no operation changes what
is known about another document or cancels a ticket for it. -/
theorem Reachable.keeps_documents (h : t.Reachable) :
    (∀ uri d, t.document? uri = some d →
      (d.inFlight ≠ none ∨ d.published ≠ none) ∧
      (∀ n, d.inFlight = some n → t.isCancelled n = false) ∧
      ∀ set, d.published = some set → set.version ≤ d.latestVersion) ∧
    (∀ uri operations d, .close uri ∉ operations → t.document? uri = some d →
      ∃ d', (t.performAll operations).document? uri = some d' ∧ d.IsFollowedBy d') ∧
    (∀ uri version, (t.begin uri version).1 = none → (t.begin uri version).2 = t) ∧
    (∀ ticket diagnostics, (t.publish ticket diagnostics).1 = false →
      (t.publish ticket diagnostics).2 = t) ∧
    ∀ operation, (∀ uri, uri ≠ operation.uri →
        (t.perform operation).document? uri = t.document? uri) ∧
      ∀ n, (t.perform operation).isCancelled n = true →
        t.isCancelled n = true ∨ (t.document? operation.uri).bind (·.inFlight) = some n := by
  refine ⟨fun uri d hd => ⟨?_, fun n => h.wellFormed.inFlight_live hd,
      fun set => h.wellFormed.published_le hd⟩,
    fun uri operations d hopen hd => h.wellFormed.exists_document?_performAll hd hopen,
    fun uri version => begin_snd_eq_self, fun ticket diagnostics => publish_snd_eq_self,
    fun operation => ⟨fun uri => document?_perform, fun n => isCancelled_perform⟩⟩
  simpa [Document.isSeen, Option.isSome_iff_ne_none] using h.wellFormed.isSeen hd

/-- A document with a negative version in sight and a later one being scanned, beside another one. -/
def twoDocuments : Tracker :=
  performAll ∅ [.begin "q" (-3), .publish ⟨0, "q", -3⟩ [], .begin "r" 5, .begin "q" (-1)]

theorem Reachable.keeps_documents_twoDocuments :
    twoDocuments.Reachable ∧
    twoDocuments.document? "q" = some ⟨-1, some 2, some ⟨-3, []⟩⟩ ∧
    twoDocuments.isCancelled 2 = false ∧
    (∃ d', (twoDocuments.performAll [.begin "q" 4, .close "r"]).document? "q" = some d' ∧
      Document.IsFollowedBy ⟨-1, some 2, some ⟨-3, []⟩⟩ d') ∧
    ((twoDocuments.begin "q" (-2)).1 = none ∧ (twoDocuments.begin "q" (-2)).2 = twoDocuments) ∧
    ((twoDocuments.publish ⟨0, "q", -3⟩ []).1 = false ∧
      (twoDocuments.publish ⟨0, "q", -3⟩ []).2 = twoDocuments) ∧
    (twoDocuments.perform (.close "r")).document? "q" = twoDocuments.document? "q" ∧
    ((twoDocuments.perform (.begin "q" 4)).isCancelled 2 = true ∧
      (twoDocuments.isCancelled 2 = true ∨
        (twoDocuments.document? "q").bind (·.inFlight) = some 2)) := by
  have hreachable : twoDocuments.Reachable := ⟨_, rfl⟩
  have hdocument : twoDocuments.document? "q" = some ⟨-1, some 2, some ⟨-3, []⟩⟩ := by
    decide +kernel
  have hrefused : (twoDocuments.begin "q" (-2)).1 = none := by decide +kernel
  have hdropped : (twoDocuments.publish ⟨0, "q", -3⟩ []).1 = false := by decide +kernel
  have hcancelled : (twoDocuments.perform (.begin "q" 4)).isCancelled 2 = true := by decide +kernel
  obtain ⟨hsound, hfollows, hbegin, hpublish, hother⟩ := hreachable.keeps_documents
  exact ⟨hreachable, hdocument, (hsound "q" _ hdocument).2.1 2 rfl,
    hfollows "q" _ _ (by simp) hdocument, ⟨hrefused, hbegin _ _ hrefused⟩,
    ⟨hdropped, hpublish _ _ hdropped⟩, (hother (.close "r")).1 "q" (by simp [Operation.uri]),
    hcancelled, (hother (.begin "q" 4)).2 2 hcancelled⟩

end QueryAssist.Tracker
