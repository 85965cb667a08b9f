import BracketTint.Proofs.Integrity
import BracketTint.Proofs.Scan

/-!
# When a Run Faults

A splice that is applied to a document is brought inside it first, so its numbers do no harm. But
splices that wait are joined before that, with the numbers that they were told with. This module
says exactly when that goes wrong, and that nothing else does.

## Main results

* `Splice.andThen_eq_error_iff` — **two splices clash** if a sum of line numbers is not a word, if
  one of them stops before it starts, or if the growth of the first, or the end of both, is not a
  signed word;
* `Host.Steady.perform_eq_error_iff_clashes` — **the step.** A request faults exactly if it tells of
  a change of a document for which a splice waits, and the two clash. In particular there has to be
  a delay, no line is ever asked for that is not there, and no place of a color cycle is counted
  modulo zero (`Scheme.cycleLength_pos`);
* `Splice.Below.joined` — what waits grows no faster than the sum of all that was told;
* `Host.performAll_eq_error_iff_clashes` — **the run.** It faults exactly if a change clashes on the
  way, and does not if the line numbers of all changes add up to less than half of all words.
-/

namespace BracketTint

/-- Whether a number is a signed word. -/
def Word.IsSigned (a : Int) : Prop := -half ≤ a ∧ a < half

instance (a : Int) : Decidable (Word.IsSigned a) := inferInstanceAs (Decidable (_ ∧ _))

namespace Splice

variable {s next : Splice} {fault : Fault}

/-! ### Two splices -/

/-- How many lines the text grows by, if the counts are read as signed words. -/
def signedGrowth (s : Splice) : Int := Word.toSigned s.count - Word.toSigned (s.stop - s.start)

/-- Where two splices together stop, read as a signed word and counted back by the growth of the
first. -/
def signedStop (s next : Splice) : Int :=
  Word.toSigned (max (s.start + s.count) next.stop) - s.signedGrowth

/-- A difference that is formed when two splices are joined leaves its range. -/
def Crosses (s next : Splice) : Prop :=
  s.stop < s.start ∨ next.stop < next.start ∨ ¬ Word.IsSigned s.signedGrowth ∨
    ¬ Word.IsSigned (s.signedStop next)

instance (s next : Splice) : Decidable (s.Crosses next) := inferInstanceAs (Decidable (_ ∨ _))

/-- A number that is formed when two splices are joined leaves its range. The end of the new lines
of the first is formed before all differences, and the number of new lines of both after them. -/
def Clashes (s next : Splice) : Fault → Prop
  | .addOverflow => Word.size ≤ s.start + s.count ∨
      ¬ s.Crosses next ∧ Word.size ≤ (s.joined next).count
  | .subOverflow => s.start + s.count < Word.size ∧ s.Crosses next
  | .noSuchLine _ _ => False

/-- The growth of a splice, whatever its numbers are. -/
theorem growth_eq (s : Splice) :
    s.growth = if s.stop < s.start ∨ ¬ Word.IsSigned s.signedGrowth then .error .subOverflow
      else .ok s.signedGrowth := by
  by_cases hle : s.start ≤ s.stop
  · have hsigned : s.growth =
        if Word.IsSigned s.signedGrowth then .ok s.signedGrowth else .error .subOverflow := by
      rw [growth, removed, Word.sub_of_le hle, ok_bind]
      rfl
    by_cases hgrowth : Word.IsSigned s.signedGrowth <;> simp [hsigned, hgrowth, hle]
  · rw [growth, removed, Word.sub, if_neg hle, if_pos (.inl (Nat.not_le.1 hle))]
    rfl

theorem count_joined (s next : Splice) : (s.joined next).count =
    max (s.start + s.count) next.stop - min s.start next.start - (next.stop - next.start) +
      next.count := rfl

/-- **Joining two splices**, whatever their numbers are. -/
theorem andThen_eq (s next : Splice) :
    s.andThen next =
      if Word.size ≤ s.start + s.count then .error .addOverflow
      else if s.Crosses next then .error .subOverflow
      else if Word.size ≤ (s.joined next).count then .error .addOverflow
      else .ok ⟨min s.start next.start, Word.ofSigned (s.signedStop next),
        (s.joined next).count⟩ := by
  by_cases hreach : Word.size ≤ s.start + s.count
  · rw [if_pos hreach, andThen, Word.add, if_neg (Nat.not_lt.2 hreach)]
    rfl
  rw [if_neg hreach, andThen, Word.add_of_lt (Nat.not_le.1 hreach), ok_bind, growth_eq]
  by_cases hgrowth : s.stop < s.start ∨ ¬ Word.IsSigned s.signedGrowth
  · have hcrosses : s.Crosses next := hgrowth.imp_right fun h => .inr (.inl h)
    rw [if_pos hgrowth, if_pos hcrosses]
    rfl
  rw [if_neg hgrowth, ok_bind]
  by_cases hstop : Word.IsSigned (s.signedStop next)
  · have hsub : Word.subSigned (Word.toSigned (max (s.start + s.count) next.stop))
        s.signedGrowth = .ok (s.signedStop next) := if_pos hstop
    -- what both cover includes what the second one replaces
    rw [hsub, ok_bind, Word.sub_of_le (by omega), ok_bind, removed]
    by_cases hnext : next.start ≤ next.stop
    · have hcrosses : ¬ s.Crosses next := by
        rintro (hback | hback | hgrowth' | hstop')
        · exact hgrowth (.inl hback)
        · exact absurd hnext (Nat.not_le.2 hback)
        · exact hgrowth (.inr hgrowth')
        · exact hstop' hstop
      rw [Word.sub_of_le hnext, ok_bind, Word.sub_of_le (by omega), ok_bind, if_neg hcrosses,
        Word.add, ← count_joined]
      by_cases hcount : Word.size ≤ (s.joined next).count
      · rw [if_pos hcount, if_neg (Nat.not_lt.2 hcount)]
        rfl
      · rw [if_neg hcount, if_pos (Nat.not_le.1 hcount)]
        rfl
    · rw [Word.sub, if_neg hnext, if_pos (.inr (.inl (Nat.not_le.1 hnext)))]
      rfl
  · have hsub : Word.subSigned (Word.toSigned (max (s.start + s.count) next.stop))
        s.signedGrowth = .error .subOverflow := if_neg hstop
    rw [hsub, if_pos (.inr (.inr (.inr hstop)))]
    rfl

/-- **When joining two splices faults.** -/
theorem andThen_eq_error_iff : s.andThen next = .error fault ↔ s.Clashes next fault := by
  rw [andThen_eq]
  by_cases hreach : Word.size ≤ s.start + s.count
  · cases fault <;> simp [Clashes, hreach, Nat.not_lt.2 hreach]
  · by_cases hcrosses : s.Crosses next
    · cases fault <;> simp [Clashes, hreach, hcrosses, Nat.not_le.1 hreach]
    · by_cases hcount : Word.size ≤ (s.joined next).count <;>
        cases fault <;> simp [Clashes, hreach, hcrosses, hcount]

/-- A change that cannot be joined to what waits finds something waiting, and the two clash. -/
theorem compose_eq_error_iff {waiting : Option Splice} :
    Backlog.compose waiting next = .error fault ↔
      ∃ s, waiting = some s ∧ s.Clashes next fault := by
  cases waiting with
  | none => simp [Backlog.compose]
  | some s => simp [Backlog.compose, andThen_eq_error_iff]

/-! ### Splices with room -/

/-- The numbers of a splice, as far as it reaches before and after the change. -/
def extent (s : Splice) : Nat := s.stop + s.count

/-- A splice does not reach beyond a number of lines, neither before nor after the change. -/
structure Below (s : Splice) (bound : Nat) : Prop where
  start_le : s.start ≤ s.stop
  stop_le : s.stop ≤ bound
  reach_le : s.start + s.count ≤ bound

theorem below_extent (h : s.start ≤ s.stop) : s.Below s.extent :=
  ⟨h, Nat.le_add_right _ _, Nat.add_le_add_right h _⟩

theorem Below.of_le {bound bound' : Nat} (h : s.Below bound) (hle : bound ≤ bound') :
    s.Below bound' :=
  ⟨h.start_le, Nat.le_trans h.stop_le hle, Nat.le_trans h.reach_le hle⟩

/-- **What waits grows no faster than the sum of all that was told.** -/
theorem Below.joined {bound : Nat} (h : s.Below bound) (hnext : next.start ≤ next.stop) :
    (s.joined next).Below (bound + next.extent) := by
  obtain ⟨hle, hstop, hreach⟩ := h
  refine ⟨joined_start_le next hle, ?_, ?_⟩
  · rw [stop_joined, extent]
    omega
  · rw [reach_joined s hnext, extent]
    omega

/-- Splices with room for both are joined without a fault. -/
theorem Below.andThen {bound : Nat} (h : s.Below bound) (hnext : next.start ≤ next.stop)
    (hroom : bound + next.extent < Word.half) : s.andThen next = .ok (s.joined next) := by
  obtain ⟨-, hjoinedStop, hjoinedReach⟩ := h.joined hnext
  obtain ⟨hle, hstop, hreach⟩ := h
  have hextent : next.stop ≤ next.extent := Nat.le_add_right _ _
  exact andThen_eq_joined hle hnext (by omega) (by omega) (by omega) (by omega) (by omega)

/-- What waits, with one more splice. -/
theorem below_of_compose {waiting : Option Splice} {bound : Nat}
    (h : ∀ splice, waiting = some splice → splice.Below bound) (hnext : next.start ≤ next.stop)
    (hroom : bound + next.extent < Word.half) :
    ∃ both, Backlog.compose waiting next = .ok both ∧ both.Below (bound + next.extent) := by
  cases waiting with
  | none => exact ⟨next, rfl, (below_extent hnext).of_le (Nat.le_add_left _ _)⟩
  | some s => exact ⟨s.joined next, (h s rfl).andThen hnext hroom, (h s rfl).joined hnext⟩

end Splice

/-! ### Whole runs -/

namespace Request

/-- The splice that a request tells of. -/
def splice? : Request → Option Splice
  | .call (.event (.changed _ splice) _) => some splice
  | _ => none

/-- The extent of the splice that a request tells of. -/
def extent (request : Request) : Nat := (request.splice?.map Splice.extent).getD 0

end Request

namespace Host

variable {host host' : Host} {texts : Texts} {request : Request} {fault : Fault} {bound : Nat}

/-- **The step.** A request faults exactly if it tells of a change of a document for which a splice
waits already, and the two clash. That takes a delay, since nothing waits without one. -/
theorem Steady.perform_eq_error_iff_clashes (h : host.Steady) (htexts : Workspace.Bounded texts) :
    host.perform texts request = .error fault ↔
      ∃ id splice now waiting, request = .call (.event (.changed id splice) now) ∧
        host.workspace.scheme.delay ≠ 0 ∧ host.workspace.waiting? id = some waiting ∧
        waiting.Clashes splice fault := by
  rw [h.perform_eq_error_iff htexts]
  constructor
  · rintro ⟨id, splice, now, hrequest, hfault⟩
    obtain ⟨waiting, hwaiting, hclashes⟩ := Splice.compose_eq_error_iff.1 hfault
    have hdelay := (h.coherent.neat id).delay_ne_zero hwaiting
    exact ⟨id, splice, now, waiting, hrequest, hdelay, hwaiting, hclashes⟩
  · rintro ⟨id, splice, now, waiting, hrequest, -, hwaiting, hclashes⟩
    exact ⟨id, splice, now, hrequest, Splice.compose_eq_error_iff.2 ⟨waiting, hwaiting, hclashes⟩⟩

/-- A run faults exactly if one of its requests does, after all those before it went well. -/
theorem performAll_eq_error_iff {run : List (Texts × Request)} :
    host.performAll run = .error fault ↔
      ∃ front texts request back middle, run = front ++ (texts, request) :: back ∧
        host.performAll front = .ok middle ∧ middle.perform texts request = .error fault := by
  induction run generalizing host with
  | nil => simp [Host.performAll]
  | cons step rest ih =>
      obtain ⟨texts, request⟩ := step
      rw [Host.performAll, bind_eq_error_iff]
      constructor
      · rintro (hfault | ⟨first, hfirst, hrest⟩)
        · exact ⟨[], texts, request, rest, host, rfl, rfl, hfault⟩
        · obtain ⟨front, texts', request', back, middle, rfl, hfront, hfault⟩ := ih.1 hrest
          refine ⟨(texts, request) :: front, texts', request', back, middle, rfl, ?_, hfault⟩
          rw [Host.performAll, hfirst, ok_bind, hfront]
      · rintro ⟨front, texts', request', back, middle, heq, hfront, hfault⟩
        cases front with
        | nil =>
            obtain ⟨⟨rfl, rfl⟩, rfl⟩ := List.cons.inj heq
            exact .inl (Except.ok.inj hfront ▸ hfault)
        | cons step front =>
            obtain ⟨rfl, rfl⟩ := List.cons.inj heq
            obtain ⟨first, hfirst, hfront⟩ := bind_eq_ok_iff.1 hfront
            exact .inr ⟨first, hfirst, ih.2 ⟨front, texts', request', back, middle, rfl, hfront,
              hfault⟩⟩

/-- All splices that wait lie below a bound. -/
def Below (host : Host) (bound : Nat) : Prop :=
  ∀ id splice, host.workspace.waiting? id = some splice → splice.Below bound

/-- **The step**: with room for one more splice, a request does not fault, and what waits afterwards
lies below the new bound. -/
theorem Steady.perform_of_room (h : host.Steady) (htexts : Workspace.Bounded texts)
    (hbelow : host.Below bound)
    (hle : ∀ splice, request.splice? = some splice → splice.start ≤ splice.stop)
    (hroom : bound + request.extent < Word.half) :
    ∃ host', host.perform texts request = .ok host' ∧ host'.Below (bound + request.extent) := by
  have hjoins {id : DocumentId} {splice : Splice} {now : Nat}
      (hrequest : request = .call (.event (.changed id splice) now)) :
      ∃ both, Backlog.compose (host.workspace.waiting? id) splice = .ok both ∧
        both.Below (bound + request.extent) := by
    subst hrequest
    exact Splice.below_of_compose (hbelow id) (hle splice rfl) hroom
  cases hperform : host.perform texts request with
  | error fault =>
      obtain ⟨id, splice, now, hrequest, hfault⟩ := (h.perform_eq_error_iff htexts).1 hperform
      obtain ⟨both, hboth, -⟩ := hjoins hrequest
      exact absurd (hboth.symm.trans hfault) (by simp)
  | ok host' =>
      refine ⟨host', rfl, fun id splice hsplice => ?_⟩
      have hgrow := Nat.le_add_right bound request.extent
      cases request with
      | call call =>
          obtain ⟨-, hanswers⟩ := h.toInv.answers hperform
          rcases Slot.waiting?_of_answer (hanswers.slot_eq id) hsplice with
            hold | ⟨change, now, rfl, hcompose⟩
          · exact (hbelow id splice hold).of_le hgrow
          · obtain ⟨both, hboth, hbelow'⟩ := hjoins rfl
            obtain rfl : both = splice := Except.ok.inj (hboth.symm.trans hcompose)
            exact hbelow'
      | hold held =>
          obtain rfl := Except.ok.inj hperform
          exact (hbelow id splice hsplice).of_le hgrow
      | cancel held index =>
          rcases perform_cancel_cases hperform with ⟨-, rfl⟩ | ⟨ticket, -, rfl⟩ <;>
            exact (hbelow id splice hsplice).of_le hgrow

/-- The extents of all splices that a run tells of, added up. -/
def totalExtent : List (Texts × Request) → Nat
  | [] => 0
  | step :: rest => step.2.extent + totalExtent rest

/-- **The run**: with room for the sum of all splices no request faults. -/
theorem Steady.performAll_of_room (h : host.Steady) (hbelow : host.Below bound)
    {run : List (Texts × Request)} (hbounded : ∀ step ∈ run, Workspace.Bounded step.1)
    (hle : ∀ step ∈ run, ∀ splice, step.2.splice? = some splice → splice.start ≤ splice.stop)
    (hroom : bound + totalExtent run < Word.half) :
    ∃ host', host.performAll run = .ok host' := by
  induction run generalizing host bound with
  | nil => exact ⟨host, rfl⟩
  | cons step rest ih =>
      obtain ⟨htexts, hrest⟩ := List.forall_mem_cons.1 hbounded
      obtain ⟨hstep, hle⟩ := List.forall_mem_cons.1 hle
      rw [totalExtent, ← Nat.add_assoc] at hroom
      obtain ⟨middle, hperform, hbelow'⟩ :=
        h.perform_of_room htexts hbelow hstep (Nat.lt_of_le_of_lt (Nat.le_add_right _ _) hroom)
      obtain ⟨host', hrun⟩ := ih (h.perform htexts hperform) hbelow' hrest hle hroom
      exact ⟨host', by rw [Host.performAll, hperform, ok_bind, hrun]⟩

/-- **When a run faults.** Whatever a host does, under any scheme, with any texts and any splices:

* a run faults exactly if it comes to a change of a document for which a splice waits already, and
  the two clash; so no line is ever asked for that is not there, and without a delay nothing faults;
* if no splice stops before it starts, and the numbers of all splices that are told add up to less
  than half of all words, then no call faults;
* the lines that were scanned on the way were scanned without a fault, too, if each palette has
  fewer colors than there are words.

Texts have fewer lines than half of all words, as all texts in memory do. -/
theorem performAll_eq_error_iff_clashes (scheme : Scheme) {run : List (Texts × Request)}
    (hbounded : ∀ step ∈ run, Workspace.Bounded step.1) :
    (∀ fault, (start scheme).performAll run = .error fault ↔
      ∃ front texts id splice now back host waiting,
        run = front ++ (texts, .call (.event (.changed id splice) now)) :: back ∧
        (start scheme).performAll front = .ok host ∧ host.workspace.scheme.delay ≠ 0 ∧
        host.workspace.waiting? id = some waiting ∧ waiting.Clashes splice fault) ∧
    ((∀ step ∈ run, ∀ splice, step.2.splice? = some splice → splice.start ≤ splice.stop) →
      totalExtent run < Word.half →
        ∃ host, (start scheme).performAll run = .ok host) ∧
    ∀ host, (start scheme).performAll run = .ok host →
      (∀ p ∈ host.workspace.scheme.pairs, p.palette.length < Word.size) →
      ∀ id d, host.workspace.documents.get? id = some d →
        ∃ lines : List String, d = .parse host.workspace.scheme lines ∧
          ∀ (i : Nat) text row, lines[i]? = some text → d.rows[i]? = some row →
            Row.scanFrom d.scheme i row.entry text = .ok row := by
  refine ⟨fun fault => ?_, fun hle hroom => ?_, fun host hrun hpalettes id d hd => ?_⟩
  · rw [performAll_eq_error_iff]
    constructor
    · rintro ⟨front, texts, request, back, host, rfl, hfront, hfault⟩
      have hsteady := (steady_start scheme).performAll
        (fun step hstep => hbounded step (List.mem_append_left _ hstep)) hfront
      obtain ⟨id, splice, now, waiting, rfl, hclash⟩ :=
        (hsteady.perform_eq_error_iff_clashes (hbounded (texts, request) (by simp))).1 hfault
      exact ⟨front, texts, id, splice, now, back, host, waiting, rfl, hfront, hclash⟩
    · rintro ⟨front, texts, id, splice, now, back, host, waiting, rfl, hfront, hclash⟩
      have hsteady := (steady_start scheme).performAll
        (fun step hstep => hbounded step (List.mem_append_left _ hstep)) hfront
      have htexts := hbounded (texts, .call (.event (.changed id splice) now)) (by simp)
      exact ⟨front, texts, _, back, host, rfl, hfront,
        (hsteady.perform_eq_error_iff_clashes htexts).2 ⟨id, splice, now, waiting, rfl, hclash⟩⟩
  · have hbelow : (start scheme).Below 0 := by
      intro id splice hwaiting
      cases hwaiting
    exact (steady_start scheme).performAll_of_room hbelow hbounded hle (by rwa [Nat.zero_add])
  · obtain ⟨lines, -, rfl⟩ :=
      ((steady_start scheme).performAll hbounded hrun).scanned id d hd
    exact ⟨lines, rfl, fun i text row htext hrow =>
      Document.scanFrom_of_mem_parse hpalettes htext hrow⟩

/-- A line is appended to a text by a splice that starts at the last word, and then a second change
comes before the first one was applied. If the first splice starts within the text, all is well. -/
theorem performAll_eq_error_iff_clashes_appended :
    ∃ (scheme : Scheme) (run : Splice → List (Texts × Request)),
      (∀ splice, ∀ step ∈ run splice, Workspace.Bounded step.1) ∧
      (start scheme).performAll (run (.of 18446744073709551615 18446744073709551615 1)) =
        .error .addOverflow ∧
      (∃ front texts id splice now back host waiting,
        run (.of 18446744073709551615 18446744073709551615 1) =
          front ++ (texts, .call (.event (.changed id splice) now)) :: back ∧
        (start scheme).performAll front = .ok host ∧ host.workspace.scheme.delay ≠ 0 ∧
        host.workspace.waiting? id = some waiting ∧ waiting.Clashes splice .addOverflow) ∧
      ∃ host, (start scheme).performAll (run (.of 1 1 1)) = .ok host := by
  have hbounded (splice : Splice) : ∀ step ∈ ([
      (Texts.single "a" ["("], .call (.event (.opened "a") 0)),
      (Texts.single "a" ["(", ")"], .call (.event (.changed "a" splice) 0)),
      (Texts.single "a" ["(", "]"], .call (.event (.changed "a" (.of 1 2 1)) 0))] :
        List (Texts × Request)), Workspace.Bounded step.1 := by
    simp only [List.forall_mem_cons]
    exact ⟨Workspace.bounded_single _ _ (by decide), Workspace.bounded_single _ _ (by decide),
      Workspace.bounded_single _ _ (by decide), by simp⟩
  refine ⟨⟨[⟨'(', ')', ["a", "b"], "c"⟩], .consecutive, false, true, 100⟩, fun splice => _,
    hbounded, rfl, ?_, ?_⟩
  · exact ((performAll_eq_error_iff_clashes _ (hbounded _)).1 .addOverflow).1 rfl
  · refine (performAll_eq_error_iff_clashes _ (hbounded _)).2.1 ?_ (by decide)
    simp [Request.splice?, Splice.of]

end Host

end BracketTint
