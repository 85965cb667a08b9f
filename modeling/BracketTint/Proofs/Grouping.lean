import BracketTint.Proofs.Backlog
import BracketTint.Proofs.Merging

/-!
# Merging in Any Grouping

Splices that follow each other are merged into one, and there are two ways to come by it. Usually
each new splice is merged with all that came before. But an update that was taken out and not
carried out comes back late, when the splices after it are merged already, and then it is merged in
front of them. The two ways count lines in different texts: the one before the first splice, or the
one after it.

Without bounds the two always give the same splice (`Splice.joined_assoc`, and
`Splice.foldl_joined` for any number of splices). In words the one can fault where the other does
not, so there has to be room on both ways (`Splice.RoomyEitherWay`); then neither faults. For a
backlog this means that a splice which comes back leaves no trace of its detour: what is pending is
what would be pending if it had never been taken out (`Splice.merging_associative`).
-/

namespace BracketTint

namespace Splice

variable {s next : Splice} {rest : List Splice}

/-- Any number of splices joined to one that does not stop before it starts. -/
theorem foldl_joined_start_le (h : s.start ≤ s.stop) :
    (rest.foldl joined s).start ≤ (rest.foldl joined s).stop := by
  induction rest generalizing s with
  | nil => exact h
  | cons next rest ih => exact ih (joined_start_le next h)

/-- **Any number of splices can be joined in either grouping**: from the left, or the later ones
first. -/
theorem foldl_joined (s : Splice) (hnext : next.start ≤ next.stop)
    (hrest : ∀ r ∈ rest, r.start ≤ r.stop) :
    rest.foldl joined (s.joined next) = s.joined (rest.foldl joined next) := by
  induction rest generalizing next with
  | nil => rfl
  | cons last rest ih =>
      obtain ⟨hlast, hrest⟩ := List.forall_mem_cons.1 hrest
      rw [List.foldl_cons, joined_assoc s hnext hlast, ih (joined_start_le last hnext) hrest,
        List.foldl_cons]

/-- There is room for merging splices in either grouping. -/
structure RoomyEitherWay (s next : Splice) (rest : List Splice) : Prop where
  /-- All are merged from the left. -/
  inOrder : Roomy s (next :: rest)
  /-- The later ones are merged first. -/
  later : Roomy next rest
  /-- The first one is merged in front of them. -/
  inFront : Roomy s [rest.foldl joined next]

/-- **Either grouping leads to the same splice**, without a fault. -/
theorem RoomyEitherWay.merged (h : RoomyEitherWay s next rest) (hs : s.start ≤ s.stop)
    (hnext : next.start ≤ next.stop) (hrest : ∀ r ∈ rest, r.start ≤ r.stop) :
    ∃ both merged, (next :: rest).foldlM andThen s = .ok merged ∧
      rest.foldlM andThen next = .ok both ∧ s.andThen both = .ok merged := by
  refine ⟨rest.foldl joined next, (next :: rest).foldl joined s,
    h.inOrder.foldlM hs (List.forall_mem_cons.2 ⟨hnext, hrest⟩), h.later.foldlM hnext hrest, ?_⟩
  rw [andThen_of_formed hs (foldl_joined_start_le hnext) h.inFront.1, List.foldl_cons,
    foldl_joined s hnext hrest]

/-- Room on one way is not enough: a long insertion makes up for the two deletions after it, which
together take away more lines than a signed word can count. -/
example :
    let a : Splice := ⟨0, 0, Word.half - 1⟩
    let b : Splice := ⟨0, Word.half - 1, 0⟩
    (a.andThen b >>= fun both => both.andThen b) = .ok b ∧
      (b.andThen b >>= fun both => a.andThen both) = .error .subOverflow := by decide

end Splice

namespace Backlog

variable {b : Backlog} {t : Tickets} {s merged : Splice} {changes : List (Splice × Nat)}

/-- Schedules splices one after another, each at its time. -/
def scheduleAll (b : Backlog) (t : Tickets) (changes : List (Splice × Nat)) :
    Except Fault (Backlog × Tickets) :=
  changes.foldlM (fun state change => state.1.schedule change.1 change.2 state.2) (b, t)

/-- The splices of a run are merged from the left into the one that is pending. -/
theorem scheduleAll_of_pending {update : Update} (hpending : b.pending = some update)
    (hmerged : (changes.map Prod.fst).foldlM Splice.andThen update.splice = .ok merged) :
    ∃ b' t', b.scheduleAll t changes = .ok (b', t') ∧
      b'.pending.map Update.splice = some merged := by
  induction changes generalizing b t update with
  | nil =>
      obtain rfl := Except.ok.inj hmerged
      exact ⟨b, t, rfl, by rw [hpending, Option.map_some]⟩
  | cons change rest ih =>
      obtain ⟨splice, now⟩ := change
      obtain ⟨both, hboth, hrest⟩ := bind_eq_ok_iff.1 hmerged
      obtain ⟨b', t', hschedule, hsplice⟩ := ih
        (b := { b with timer := b.timer.start now, pending := some ⟨both, t.next⟩ })
        (t := (t.cancel update.ticket).issue) rfl hrest
      refine ⟨b', t', ?_, hsplice⟩
      rw [← hschedule, scheduleAll, List.foldlM_cons]
      simp only [schedule, hpending, hboth, ok_bind, pure_eq_ok]
      rfl

/-- The same for a backlog in which nothing waits, once the first splice is scheduled. -/
theorem scheduleAll_of_idle (hb : b.waiting? = none) (t : Tickets) (now : Nat)
    (changes : List (Splice × Nat))
    (hmerged : (changes.map Prod.fst).foldlM Splice.andThen s = .ok merged) :
    ∃ b' t', b.scheduleAll t ((s, now) :: changes) = .ok (b', t') ∧
      b'.pending.map Update.splice = some merged := by
  obtain ⟨timer, pending, carried⟩ := b
  obtain rfl : pending = none := pending_of_waiting? hb
  obtain rfl : carried = none := hb
  exact scheduleAll_of_pending (b := ⟨timer.start now, some ⟨s, t.next⟩, none⟩) (t := t.issue) rfl
    hmerged

/-- A splice that comes back is merged in front of the one that is pending. -/
theorem carry_of_pending {both : Splice} (hpending : b.pending.map Update.splice = some both)
    (hmerged : s.andThen both = .ok merged) :
    ∃ b', b.carry s = .ok b' ∧ b'.pending.map Update.splice = some merged := by
  obtain ⟨update, hupdate, rfl⟩ := Option.map_eq_some_iff.1 hpending
  refine ⟨{ b with pending := some { update with splice := merged } }, ?_, rfl⟩
  simp only [carry, hupdate, hmerged, ok_bind, pure_eq_ok]

end Backlog

/-! ### The theorem on groupings -/

namespace Splice

/-- **Merging is associative.** Let no splice stop before it starts, and let there be room for all
numbers that are formed on either way. Then:

* three splices that follow each other are merged without a fault, and the last two may be merged
  first;
* let any number of changes follow one that is taken out and comes back after they were scheduled.
  Then none of this faults, and the splice that is pending in the end is the one that is pending
  after all of them were scheduled in order, whatever the times and the tickets. -/
theorem merging_associative :
    (∀ a b c : Splice, a.start ≤ a.stop → b.start ≤ b.stop → c.start ≤ c.stop →
      RoomyEitherWay a b [c] →
      ∃ merged, (a.andThen b >>= fun both => both.andThen c) = .ok merged ∧
        (b.andThen c >>= fun both => a.andThen both) = .ok merged) ∧
    ∀ (skipped first : Splice × Nat) (rest : List (Splice × Nat)),
      (∀ change ∈ skipped :: first :: rest, change.1.start ≤ change.1.stop) →
      RoomyEitherWay skipped.1 first.1 (rest.map Prod.fst) →
      ∀ idle idle' : Backlog, idle.waiting? = none → idle'.waiting? = none →
      ∀ t t' : Tickets, ∃ merged inOrder later returned,
        idle.scheduleAll t (skipped :: first :: rest) = .ok inOrder ∧
        inOrder.1.pending.map Update.splice = some merged ∧
        idle'.scheduleAll t' (first :: rest) = .ok later ∧
        later.1.carry skipped.1 = .ok returned ∧
        returned.pending.map Update.splice = some merged := by
  constructor
  · intro a b c ha hb hc hroomy
    obtain ⟨both, merged, hinOrder, hlater, hinFront⟩ :=
      hroomy.merged ha hb (List.forall_mem_singleton.2 hc)
    simp only [List.foldlM_cons, List.foldlM_nil, bind_pure] at hinOrder hlater
    exact ⟨merged, hinOrder, by rw [hlater, ok_bind, hinFront]⟩
  · rintro ⟨skipped, start⟩ ⟨first, now⟩ rest hle hroomy idle idle' hidle hidle' t t'
    simp only [List.forall_mem_cons] at hle
    obtain ⟨hskipped, hfirst, hrest⟩ := hle
    obtain ⟨both, merged, hinOrder, hlater, hinFront⟩ :=
      hroomy.merged hskipped hfirst (List.forall_mem_map.2 hrest)
    obtain ⟨b, t₁, hscheduled, hpending⟩ :=
      Backlog.scheduleAll_of_idle hidle t start ((first, now) :: rest) hinOrder
    obtain ⟨b', t₂, hscheduled', hpending'⟩ :=
      Backlog.scheduleAll_of_idle hidle' t' now rest hlater
    obtain ⟨returned, hreturned, hsame⟩ := Backlog.carry_of_pending hpending' hinFront
    exact ⟨merged, _, _, returned, hscheduled, hpending, hscheduled', hreturned, hsame⟩

/-- Lines far below go away, then lines above them come in, and then a stretch around both changes:
merged in either grouping, and pending either way. -/
theorem merging_associative_around :
    let a : Splice := ⟨7, 9, 0⟩
    let b : Splice := ⟨2, 2, 3⟩
    let c : Splice := ⟨1, 12, 4⟩
    RoomyEitherWay a b [c] ∧
      (∃ merged, (a.andThen b >>= fun both => both.andThen c) = .ok merged ∧
        (b.andThen c >>= fun both => a.andThen both) = .ok merged ∧ merged = ⟨1, 11, 4⟩) ∧
      ∃ merged inOrder later returned,
        (Backlog.ofDelay 5).scheduleAll {} [(a, 0), (b, 3), (c, 1)] = .ok inOrder ∧
        inOrder.1.pending.map Update.splice = some merged ∧
        (Backlog.ofDelay 5).scheduleAll {} [(b, 3), (c, 1)] = .ok later ∧
        later.1.carry a = .ok returned ∧
        returned.pending.map Update.splice = some merged := by
  intro a b c
  have hroomy : RoomyEitherWay a b [c] :=
    ⟨⟨by decide, by decide, trivial⟩, ⟨by decide, trivial⟩, ⟨by decide, trivial⟩⟩
  obtain ⟨hthree, hpending⟩ := merging_associative
  obtain ⟨merged, hleft, hright⟩ := hthree a b c (by decide) (by decide) (by decide) hroomy
  have hmerged : (a.andThen b >>= fun both => both.andThen c) = .ok ⟨1, 11, 4⟩ := by decide
  exact ⟨hroomy, ⟨merged, hleft, hright, Except.ok.inj (hleft.symm.trans hmerged)⟩,
    hpending (a, 0) (b, 3) [(c, 1)] (by decide) hroomy _ _ rfl rfl {} {}⟩

end Splice

end BracketTint
