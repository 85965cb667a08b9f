import BracketTint.Proofs.Slot

/-!
# Any Order Leads to the Same End

A workspace goes through its documents in ascending order of their names. This module says what
comes of it without mention of an order, so that any other one leads to the same end.

When documents are scanned anew or shown, each is done by itself, and only which of them are gone
through matters (`Rescans`, `foldl_ensureOpen`). Updates are different: they are taken out of all
backlogs first, and only then run one after another, while some documents are closed on the way. But
an update that was taken out leaves nothing behind that another one could meet, so that each runs as
if it were the only one (`AllRun`), and the two phases together do to each document what they would
do to it alone (`Delivers`).

## Main results

* `rescans_foldl` — scanning documents anew;
* `runAll_eq_ok_iff` — carrying out updates succeeds exactly if each of them does by itself;
* `Sound.deliver_eq_ok_iff` — taking updates out and carrying them out, in any order;
* `Sound.exists_deliver_eq_error` — that faults only where a document by itself does;
* `Sound.unordered` — no order can be told from another one.
-/

namespace BracketTint

namespace Backlog

/-- Takes out the waiting update if the timer is due. -/
def takeIf (due : QuietTimer → Bool) (b : Backlog) (t : Tickets) : Taken :=
  if due b.timer then b.take t else ⟨none, b, t⟩

theorem takes_takeIf {b : Backlog} {t : Tickets} (due : QuietTimer → Bool)
    (hb : b.Sound t.issued) : b.Takes t (b.takeIf due t) := by
  rw [takeIf]
  split
  · exact takes_take hb
  · exact ⟨rfl, Nat.le_refl _, hb, .inl ⟨rfl, rfl⟩⟩

/-- Whether what comes out of a backlog needs a new ticket. -/
def renews (due : QuietTimer → Bool) (b : Backlog) : Bool :=
  due b.timer && b.pending.isNone && b.carried.isSome

theorem issued_takeIf (due : QuietTimer → Bool) (b : Backlog) (t : Tickets) :
    (b.takeIf due t).tickets.issued = t.issued + if b.renews due then 1 else 0 := by
  obtain ⟨timer, pending, carried⟩ := b
  cases hdue : due timer with
  | false => simp [takeIf, renews, hdue]
  | true => cases pending <;> cases carried <;> simp [takeIf, renews, hdue, take, Tickets.issue]

end Backlog

namespace Slot

/-- Carries out an update, if there is one, and says whether it was applied. -/
def run? (text : Option (List String)) (tickets : Tickets) (update : Option Update) (s : Slot) :
    Except Fault (Bool × Slot) :=
  match update with
  | none => .ok (false, s)
  | some update => s.run text (tickets.isCancelled update.ticket) update.splice

/-- What comes out of a backlog is carried out. A carried splice comes out under a ticket that
nobody can have cancelled. -/
theorem run?_takeIf {b : Backlog} {issued : Nat} (hb : b.Sound issued) {t tickets : Tickets}
    (hnext : tickets.isCancelled t.next = false) (due : QuietTimer → Bool) (d : Option Document)
    (text : Option (List String)) :
    Slot.run? text tickets (b.takeIf due t).update ⟨d, some (b.takeIf due t).backlog⟩ =
      Slot.deliver due text (b.ticket?.any tickets.isCancelled) ⟨d, some b⟩ := by
  obtain ⟨timer, pending, carried⟩ := b
  cases hdue : due timer with
  | false => simp [Backlog.takeIf, run?, deliver, hdue]
  | true =>
      simp only [Backlog.takeIf, run?, deliver, hdue, if_true, Option.any_some]
      cases pending with
      | some update =>
          obtain rfl : carried = none := hb.carried_eq update rfl
          rfl
      | none =>
          cases carried with
          | none => rfl
          | some splice =>
              have hrun : Slot.run? text tickets (some ⟨splice, t.next⟩)
                  ⟨d, some { timer := timer.stop }⟩ =
                    Slot.run text false splice ⟨d, some { timer := timer.stop }⟩ := by
                rw [run?, hnext]
              exact hrun

end Slot

/-- The value of a key is known from the entries of the key. -/
theorem lookup_eq_of_mem_iff {κ α : Type} [DecidableEq κ] {entries : List (κ × α)} {key : κ}
    {value : Option α} (h : ∀ v, (key, v) ∈ entries ↔ value = some v) :
    entries.lookup key = value := by
  cases hlookup : entries.lookup key with
  | some v =>
      obtain ⟨before, after, rfl, -⟩ := List.lookup_eq_some_iff.1 hlookup
      exact ((h v).1 (by simp)).symm
  | none =>
      cases hvalue : value with
      | none => rfl
      | some v =>
          have hne := List.lookup_eq_none_iff.1 hlookup (key, v) ((h v).2 hvalue)
          exact absurd hne (by simp)

theorem lookup_eq_none {κ α : Type} [DecidableEq κ] {entries : List (κ × α)} {key : κ}
    (h : key ∉ entries.map Prod.fst) : entries.lookup key = none := by
  refine lookup_eq_of_mem_iff fun v => iff_of_false (fun hmem => ?_) (by simp)
  exact h (List.mem_map_of_mem (f := Prod.fst) hmem)

/-- What holds nowhere else can be counted in a part of a list. -/
theorem countP_of_sublist {α : Type} {part whole : List α} (hsublist : part.Sublist whole)
    (hwhole : whole.Nodup) {p : α → Bool} (h : ∀ a, p a = true → a ∈ part) :
    part.countP p = whole.countP p := by
  rw [List.countP_eq_length_filter, List.countP_eq_length_filter]
  refine List.Perm.length_eq ((List.perm_ext_iff_of_nodup
    ((hsublist.nodup hwhole).filter p) (hwhole.filter p)).2 fun a => ?_)
  rw [List.mem_filter, List.mem_filter]
  exact ⟨fun ⟨ha, hp⟩ => ⟨hsublist.subset ha, hp⟩, fun ⟨_, hp⟩ => ⟨h a hp, hp⟩⟩

namespace Workspace

variable {w w' : Workspace} {texts : Texts} {id : DocumentId} {ids order : List DocumentId}

/-! ### Scanning documents anew -/

/-- What scanning some documents anew leads to. -/
structure Rescans (w : Workspace) (texts : Texts) (ids : List DocumentId) (w' : Workspace) :
    Prop where
  scheme_eq : w'.scheme = w.scheme
  slot_eq : ∀ id, w'.slot id =
    if id ∈ ids then (w.slot id).refresh w.scheme (texts id) else w.slot id
  issued_eq : w'.tickets.issued = w.tickets.issued
  isCancelled_iff : ∀ ticket, w'.tickets.isCancelled ticket = true ↔
    w.tickets.isCancelled ticket = true ∨ ∃ id ∈ ids, w.ticket? id = some ticket

/-- **Scanning documents anew**, one after another. -/
theorem rescans_foldl (hids : ids.Nodup) (w : Workspace) (texts : Texts) :
    w.Rescans texts ids (ids.foldl (·.refresh texts ·) w) := by
  induction ids generalizing w with
  | nil => exact ⟨rfl, fun _ => rfl, rfl, by simp⟩
  | cons id rest ih =>
      obtain ⟨hid, hrest⟩ := List.nodup_cons.1 hids
      obtain ⟨hscheme, hslot, hissued, hcancelled⟩ := ih hrest (w.refresh texts id)
      rw [refresh_eq_put] at hscheme hslot hissued hcancelled
      have hne {other : DocumentId} (hother : other ∈ rest) : other ≠ id := fun heq =>
        hid (heq ▸ hother)
      rw [List.foldl_cons, refresh_eq_put]
      refine ⟨hscheme, fun other => ?_, ?_, fun ticket => ?_⟩
      · rw [hslot, slot_put, scheme_put]
        by_cases hother : other = id
        · subst hother
          simp [hid]
        · simp [hother]
      · rw [hissued, tickets_put, Tickets.issued_cancel?]
      · rw [hcancelled, tickets_put, Tickets.isCancelled_cancel?, or_assoc]
        refine or_congr_right ?_
        constructor
        · rintro (hticket | ⟨other, hother, hticket⟩)
          · exact ⟨id, List.mem_cons_self, hticket⟩
          · rw [ticket?_put, if_neg (hne hother)] at hticket
            exact ⟨other, List.mem_cons_of_mem _ hother, hticket⟩
        · rintro ⟨other, hother, hticket⟩
          rcases List.mem_cons.1 hother with rfl | hother
          · exact .inl hticket
          · refine .inr ⟨other, hother, ?_⟩
            rwa [ticket?_put, if_neg (hne hother)]

/-! ### Showing documents -/

/-- **Showing documents**, any of them more than once. -/
theorem foldl_ensureOpen
    (hticket : ∀ id, (w.slot id).isOpen = false → (w.slot id).ticket? = none) (texts : Texts)
    (ids : List DocumentId) :
    (ids.foldl (·.ensureOpen texts ·) w).scheme = w.scheme ∧
      (ids.foldl (·.ensureOpen texts ·) w).tickets = w.tickets ∧
      ∀ id, (ids.foldl (·.ensureOpen texts ·) w).slot id =
        if id ∈ ids then (w.slot id).ensureOpen w.scheme (texts id) else w.slot id := by
  induction ids generalizing w with
  | nil => exact ⟨rfl, rfl, fun _ => rfl⟩
  | cons id rest ih =>
      have hput := ensureOpen_eq_put (hticket id) texts
      have hticket' : ∀ other, ((w.ensureOpen texts id).slot other).isOpen = false →
          ((w.ensureOpen texts id).slot other).ticket? = none := by
        intro other hclosed
        rw [hput, slot_put] at hclosed ⊢
        split at hclosed
        next heq =>
          rw [if_pos heq]
          exact Slot.ticket?_ensureOpen (hticket id) hclosed
        next hne =>
          rw [if_neg hne]
          exact hticket other hclosed
      obtain ⟨hscheme, htickets, hslot⟩ := ih hticket'
      rw [hput] at hscheme htickets hslot
      rw [List.foldl_cons, hput]
      refine ⟨hscheme, htickets, fun other => ?_⟩
      rw [hslot, slot_put, scheme_put]
      by_cases hother : other = id
      · subst hother
        simp [Slot.ensureOpen_ensureOpen]
      · simp [hother]

/-! ### Carrying out updates -/

/-- Each of some updates has run by itself, on the document as it was at first, and those that were
applied were counted. -/
structure AllRun (w : Workspace) (texts : Texts) (updates : List (DocumentId × Update))
    (count : Nat) (w' : Workspace) : Prop where
  scheme_eq : w'.scheme = w.scheme
  tickets_eq : w'.tickets = w.tickets
  slot_eq : ∃ applied : DocumentId → Bool, count = (updates.map Prod.fst).countP applied ∧
    ∀ id, (w.slot id).run? (texts id) w.tickets (updates.lookup id) =
      .ok (applied id, w'.slot id)

theorem allRun_nil_iff {count : Nat} : w.AllRun texts [] count w' ↔ 0 = count ∧ w = w' := by
  constructor
  · rintro ⟨hscheme, htickets, applied, rfl, hslot⟩
    exact ⟨rfl, ext_slot hscheme.symm (fun id => (Prod.mk.inj (Except.ok.inj (hslot id))).2)
      htickets.symm⟩
  · rintro ⟨rfl, rfl⟩
    exact ⟨rfl, rfl, fun _ => false, rfl, fun _ => rfl⟩

/-- What happens to a document does not change how often something holds of other documents. -/
theorem countP_update (hid : id ∉ ids) (applied : DocumentId → Bool) (a : Bool) :
    ids.countP (Function.update applied id a) = ids.countP applied := by
  refine List.countP_congr fun other hother => ?_
  have hne : other ≠ id := fun heq => hid (heq ▸ hother)
  rw [Function.update_of_ne hne]

/-- An update does not see what happened to another document. -/
theorem run?_put_of_ne {other : DocumentId} (hne : other ≠ id) (s : Slot) (update : Update)
    (rest : List (DocumentId × Update)) :
    ((w.put id s w.tickets).slot other).run? (texts other) w.tickets (rest.lookup other) =
      (w.slot other).run? (texts other) w.tickets (((id, update) :: rest).lookup other) := by
  rw [slot_put, if_neg hne, List.lookup_cons, beq_eq_false_iff_ne.2 hne]

theorem ticket?_put_eq_none {update : Update} {rest : List (DocumentId × Update)}
    (hid : id ∉ rest.map Prod.fst)
    (hticket : ∀ entry ∈ (id, update) :: rest, w.ticket? entry.1 = none) (s : Slot) :
    ∀ entry ∈ rest, (w.put id s w.tickets).ticket? entry.1 = none := by
  intro entry hentry
  have hne : entry.1 ≠ id := fun heq => hid (List.mem_map.2 ⟨entry, hentry, heq⟩)
  rw [ticket?_put, if_neg hne]
  exact hticket entry (List.mem_cons_of_mem _ hentry)

/-- The first update runs on its document, and the other ones do not see that. -/
theorem allRun_cons_iff {update : Update} {rest : List (DocumentId × Update)}
    (hid : id ∉ rest.map Prod.fst) {applied : Bool} {s : Slot}
    (hrun : (w.slot id).run (texts id) (w.tickets.isCancelled update.ticket) update.splice =
      .ok (applied, s)) {count : Nat} :
    w.AllRun texts ((id, update) :: rest) count w' ↔
      ∃ later, count = (if applied then later + 1 else later) ∧
        (w.put id s w.tickets).AllRun texts rest later w' := by
  have hnone : rest.lookup id = none := lookup_eq_none hid
  have hfirst : (w.slot id).run? (texts id) w.tickets (((id, update) :: rest).lookup id) =
      .ok (applied, s) := by
    rw [List.lookup_cons_self, Slot.run?, hrun]
  constructor
  · rintro ⟨hscheme, htickets, all, rfl, hslot⟩
    obtain ⟨rfl, hs⟩ := Prod.mk.inj (Except.ok.inj (hfirst.symm.trans (hslot id)))
    refine ⟨(rest.map Prod.fst).countP all, ?_, hscheme, htickets, Function.update all id false,
      (countP_update hid all false).symm, fun other => ?_⟩
    · rw [List.map_cons, List.countP_cons]
      split <;> rfl
    · by_cases hne : other = id
      · subst hne
        rw [slot_put_self, hnone, Function.update_self, ← hs]
        rfl
      · rw [tickets_put, Function.update_of_ne hne, run?_put_of_ne hne s update, hslot]
  · rintro ⟨later, rfl, hscheme, htickets, all, rfl, hslot⟩
    have hs := hslot id
    rw [slot_put_self, hnone] at hs
    obtain ⟨-, hs⟩ := Prod.mk.inj (Except.ok.inj hs)
    refine ⟨hscheme, htickets, Function.update all id applied, ?_, fun other => ?_⟩
    · rw [List.map_cons, List.countP_cons, countP_update hid, Function.update_self]
      split <;> rfl
    · by_cases hne : other = id
      · subst hne
        rw [hfirst, Function.update_self, hs]
      · rw [Function.update_of_ne hne, ← run?_put_of_ne hne s update]
        exact hslot other

/-- **Carrying out updates** of documents for which no other ones are pending. It succeeds exactly
if each of them runs by itself. -/
theorem runAll_eq_ok_iff {updates : List (DocumentId × Update)}
    (hnodup : (updates.map Prod.fst).Nodup)
    (hticket : ∀ entry ∈ updates, w.ticket? entry.1 = none) {count : Nat} :
    runAll texts updates w = .ok (count, w') ↔ w.AllRun texts updates count w' := by
  induction updates generalizing w count with
  | nil => rw [allRun_nil_iff, runAll, Except.ok.injEq, Prod.mk.injEq]
  | cons entry rest ih =>
      obtain ⟨id, update⟩ := entry
      obtain ⟨hid, hnodup⟩ := List.nodup_cons.1 hnodup
      rw [runAll, run_eq_put (hticket _ List.mem_cons_self)]
      cases hrun : (w.slot id).run (texts id) (w.tickets.isCancelled update.ticket)
          update.splice with
      | error fault =>
          refine iff_of_false (by simp [bind, Except.bind]) ?_
          rintro ⟨-, -, applied, -, hslot⟩
          have hfirst := hslot id
          rw [List.lookup_cons_self, Slot.run?, hrun] at hfirst
          exact absurd hfirst (by simp)
      | ok result =>
          obtain ⟨applied, s⟩ := result
          have hticket' := ticket?_put_eq_none hid hticket s
          rw [allRun_cons_iff hid hrun, ok_bind, ok_bind, bind_eq_ok_iff]
          constructor
          · rintro ⟨⟨later, w''⟩, hrest, hresult⟩
            obtain ⟨rfl, rfl⟩ := Prod.mk.inj (Except.ok.inj hresult)
            exact ⟨later, rfl, (ih hnodup hticket').1 hrest⟩
          · rintro ⟨later, rfl, hrest⟩
            exact ⟨(later, w'), (ih hnodup hticket').2 hrest, rfl⟩

/-- If carrying out updates faults, one of them does so by itself. -/
theorem exists_run?_eq_error {updates : List (DocumentId × Update)}
    (hnodup : (updates.map Prod.fst).Nodup)
    (hticket : ∀ entry ∈ updates, w.ticket? entry.1 = none) {fault : Fault}
    (hfault : runAll texts updates w = .error fault) :
    ∃ id, (w.slot id).run? (texts id) w.tickets (updates.lookup id) = .error fault := by
  induction updates generalizing w with
  | nil => exact nomatch hfault
  | cons entry rest ih =>
      obtain ⟨id, update⟩ := entry
      obtain ⟨hid, hnodup⟩ := List.nodup_cons.1 hnodup
      rw [runAll, run_eq_put (hticket _ List.mem_cons_self)] at hfault
      cases hrun : (w.slot id).run (texts id) (w.tickets.isCancelled update.ticket)
          update.splice with
      | error other =>
          rw [hrun] at hfault
          refine ⟨id, ?_⟩
          rw [List.lookup_cons_self, Slot.run?, hrun, Except.error.inj hfault]
      | ok result =>
          obtain ⟨applied, s⟩ := result
          rw [hrun, ok_bind, ok_bind, bind_eq_error_iff] at hfault
          have hrest : runAll texts rest (w.put id s w.tickets) = .error fault := by
            simpa using hfault
          obtain ⟨other, hother⟩ := ih hnodup (ticket?_put_eq_none hid hticket s) hrest
          have hne : other ≠ id := by
            rintro rfl
            rw [lookup_eq_none hid] at hother
            exact nomatch hother
          exact ⟨other, run?_put_of_ne hne s update rest ▸ hother⟩

/-! ### Taking updates out and carrying them out -/

/-- Takes updates out of the backlogs whose timers are due, in some order, and carries them out. -/
def deliver (due : QuietTimer → Bool) (order : List DocumentId) (texts : Texts) (w : Workspace) :
    Except Fault (Nat × Workspace) :=
  let collected := collect (Backlog.takeIf due) order w
  runAll texts collected.1 collected.2

theorem poll_eq_deliver (w : Workspace) (texts : Texts) (now : Nat) :
    w.poll texts now = w.deliver (·.isDue now) w.backlogs.keys texts := rfl

theorem flush_eq_deliver (w : Workspace) (texts : Texts) :
    w.flush texts = w.deliver (fun _ => true) w.backlogs.keys texts := rfl

/-- Collecting issues one ticket for each splice that was carried and comes out. -/
theorem issued_collect (due : QuietTimer → Bool) (horder : order.Nodup) (w : Workspace) :
    (collect (Backlog.takeIf due) order w).2.tickets.issued =
      w.tickets.issued + order.countP fun id => (w.backlogs.get? id).any (Backlog.renews due) := by
  induction order generalizing w with
  | nil => rfl
  | cons id rest ih =>
      obtain ⟨hid, hrest⟩ := List.nodup_cons.1 horder
      rw [List.countP_cons]
      cases hb : w.backlogs.get? id with
      | none =>
          simp only [collect, hb, ih hrest, Option.any_none, Bool.false_eq_true, if_false,
            Nat.add_zero]
      | some b =>
          have hissued := Backlog.issued_takeIf due b w.tickets
          generalize htaken : b.takeIf due w.tickets = taken at hissued
          have hothers : (rest.countP fun other => ((w.putBacklog id taken.backlog
              taken.tickets).backlogs.get? other).any (Backlog.renews due)) =
                rest.countP fun other => (w.backlogs.get? other).any (Backlog.renews due) := by
            refine List.countP_congr fun other hother => ?_
            have hne : other ≠ id := fun heq => hid (heq ▸ hother)
            rw [putBacklog, Table.get?_insert, if_neg hne]
          have hlater := ih hrest (w.putBacklog id taken.backlog taken.tickets)
          rw [hothers, putBacklog, hissued] at hlater
          simp only [collect, hb, htaken, hlater, Option.any_some]
          omega

/-- What comes out of a document and how it runs depends on that document alone. -/
theorem Collects.run?_lookup {due : QuietTimer → Bool} {updates : List (DocumentId × Update)}
    (hcollects : Collects (Backlog.takeIf due) order w updates w') (h : w.Sound)
    (horder : order.Perm w.backlogs.keys) (id : DocumentId) (text : Option (List String)) :
    (w'.slot id).run? text w'.tickets (updates.lookup id) =
      (w.slot id).deliver due text ((w.ticket? id).any w.tickets.isCancelled) := by
  have hcancelled : w'.tickets.isCancelled = w.tickets.isCancelled := by
    funext ticket
    rw [Tickets.isCancelled, hcollects.cancelled_eq, Tickets.isCancelled]
  cases hb : w.backlogs.get? id with
  | none =>
      have hnot : id ∉ order := by simp [horder.mem_iff, Table.mem_keys_iff, hb]
      have hlookup : updates.lookup id = none :=
        lookup_eq_none fun hid => hnot (hcollects.ids_sublist.subset hid)
      have hslot : w'.slot id = w.slot id := by
        rw [slot, hcollects.documents_eq, hcollects.others id hnot, slot]
      rw [hlookup, hslot, Slot.run?, Slot.deliver, slot, hb]
      rfl
  | some b =>
      have hin : id ∈ order := by simp [horder.mem_iff, Table.mem_keys_iff, hb]
      obtain ⟨t, ht, hget, hmem⟩ := hcollects.taken id hin b hb
      have hslot : w.slot id = ⟨w.documents.get? id, some b⟩ := by rw [slot, hb]
      have hslot' : w'.slot id = ⟨w.documents.get? id, some (b.takeIf due t).backlog⟩ := by
        rw [slot, hget, hcollects.documents_eq]
      have hnext : w'.tickets.isCancelled t.next = false := by
        rw [hcancelled]
        exact h.tickets.not_isCancelled ht
      have hticket : w.ticket? id = b.ticket? := by rw [ticket?, hb, Option.bind_some]
      rw [hslot, hslot', lookup_eq_of_mem_iff hmem, hticket, ← hcancelled]
      exact Slot.run?_takeIf (h.backlog id b hb) hnext due _ text

/-- An update that was taken out leaves no other one pending. -/
theorem Collects.ticket?_eq_none {due : QuietTimer → Bool} {updates : List (DocumentId × Update)}
    (hcollects : Collects (Backlog.takeIf due) order w updates w') (h : w.Sound)
    (horder : order.Perm w.backlogs.keys) {entry : DocumentId × Update} (hentry : entry ∈ updates) :
    w'.ticket? entry.1 = none := by
  have hin : entry.1 ∈ order := hcollects.ids_sublist.subset (List.mem_map_of_mem hentry)
  obtain ⟨b, hb⟩ := (Table.mem_keys_iff _ _).1 (horder.mem_iff.1 hin)
  obtain ⟨t, ht, hget, hmem⟩ := hcollects.taken entry.1 hin b hb
  have htakes := Backlog.takes_takeIf due ((h.backlog entry.1 b hb).of_le ht)
  rcases htakes.outcome with ⟨hnone, -⟩ | ⟨-, -, -, hempty⟩
  · exact absurd ((hmem entry.2).1 hentry) (by simp [hnone])
  · rw [ticket?, hget, Option.bind_some, Backlog.ticket?, Backlog.pending_of_waiting? hempty,
      Option.map_none]

/-- What carrying out the updates that are due leads to. -/
structure Delivers (w : Workspace) (due : QuietTimer → Bool) (texts : Texts) (count : Nat)
    (w' : Workspace) : Prop where
  scheme_eq : w'.scheme = w.scheme
  tickets_eq : w'.tickets = { w.tickets with
    issued := w.tickets.issued +
      w.backlogs.keys.countP fun id => (w.backlogs.get? id).any (Backlog.renews due) }
  slot_eq : ∃ applied : DocumentId → Bool, count = w.backlogs.keys.countP applied ∧
    ∀ id, (w.slot id).deliver due (texts id) ((w.ticket? id).any w.tickets.isCancelled) =
      .ok (applied id, w'.slot id)

/-- **Carrying out the updates that are due**, in any order. It succeeds exactly if it succeeds for
each document by itself. -/
theorem Sound.deliver_eq_ok_iff (h : w.Sound) {due : QuietTimer → Bool}
    (horder : order.Perm w.backlogs.keys) {count : Nat} :
    w.deliver due order texts = .ok (count, w') ↔ w.Delivers due texts count w' := by
  have hnodup : order.Nodup := horder.nodup_iff.2 (Table.nodup_keys _)
  obtain ⟨updates, w₁, hcollect, hcollects⟩ :=
    h.collect (fun _ _ => Backlog.takes_takeIf due) hnodup
  have htickets : w₁.tickets = { w.tickets with
      issued := w.tickets.issued +
        w.backlogs.keys.countP fun id => (w.backlogs.get? id).any (Backlog.renews due) } := by
    have hissued := issued_collect due hnodup w
    rw [hcollect, horder.countP_eq] at hissued
    have hcancelled := hcollects.cancelled_eq
    generalize w₁.tickets = tickets at hissued hcancelled
    obtain ⟨issued, cancelled⟩ := tickets
    obtain rfl := hissued
    obtain rfl := hcancelled
    rfl
  have hids : (updates.map Prod.fst).Nodup := hcollects.ids_sublist.nodup hnodup
  have hrun (id : DocumentId) := hcollects.run?_lookup h horder id (texts id)
  have hcount {applied : DocumentId → Bool}
      (hslot : ∀ id, (w₁.slot id).run? (texts id) w₁.tickets (updates.lookup id) =
        .ok (applied id, w'.slot id)) :
      (updates.map Prod.fst).countP applied = w.backlogs.keys.countP applied := by
    rw [← horder.countP_eq]
    refine countP_of_sublist hcollects.ids_sublist hnodup fun id happlied => ?_
    by_contra hid
    have hid' := hslot id
    rw [lookup_eq_none hid] at hid'
    obtain ⟨hfalse, -⟩ := Prod.mk.inj (Except.ok.inj hid')
    exact absurd (hfalse.trans happlied) (by simp)
  have hdeliver : w.deliver due order texts = Workspace.runAll texts updates w₁ := by
    rw [Workspace.deliver, hcollect]
  rw [hdeliver, runAll_eq_ok_iff hids fun entry => hcollects.ticket?_eq_none h horder]
  constructor
  · rintro ⟨hscheme, htickets', applied, rfl, hslot⟩
    refine ⟨hscheme.trans hcollects.scheme_eq, htickets'.trans htickets, applied, hcount hslot,
      fun id => ?_⟩
    rw [← hrun, hslot]
  · rintro ⟨hscheme, htickets', applied, rfl, hslot⟩
    simp only [← hrun] at hslot
    exact ⟨hscheme.trans hcollects.scheme_eq.symm, htickets'.trans htickets.symm, applied,
      (hcount hslot).symm, hslot⟩

/-- If carrying out the updates that are due faults, it does so for a document by itself. -/
theorem Sound.exists_deliver_eq_error (h : w.Sound) {due : QuietTimer → Bool}
    (horder : order.Perm w.backlogs.keys) {fault : Fault}
    (hfault : w.deliver due order texts = .error fault) :
    ∃ id, (w.slot id).deliver due (texts id) ((w.ticket? id).any w.tickets.isCancelled) =
      .error fault := by
  have hnodup : order.Nodup := horder.nodup_iff.2 (Table.nodup_keys _)
  obtain ⟨updates, w₁, hcollect, hcollects⟩ :=
    h.collect (fun _ _ => Backlog.takes_takeIf due) hnodup
  rw [Workspace.deliver, hcollect] at hfault
  obtain ⟨id, hid⟩ := exists_run?_eq_error (hcollects.ids_sublist.nodup hnodup)
    (fun entry => hcollects.ticket?_eq_none h horder) hfault
  exact ⟨id, hcollects.run?_lookup h horder id (texts id) ▸ hid⟩

/-! ### Any order -/

/-- **Updates may be taken out in any order.** The result is the same, also the count. -/
theorem Sound.deliver_perm (h : w.Sound) (due : QuietTimer → Bool) (texts : Texts)
    (horder : order.Perm w.backlogs.keys) (result : Nat × Workspace) :
    w.deliver due order texts = .ok result ↔
      w.deliver due w.backlogs.keys texts = .ok result := by
  rw [h.deliver_eq_ok_iff horder, h.deliver_eq_ok_iff (List.Perm.refl _)]

/-- Two workspaces that nobody can tell apart. Tickets may have been cancelled in another order. -/
structure Coincides (w w' : Workspace) : Prop where
  scheme_eq : w.scheme = w'.scheme
  documents_eq : w.documents = w'.documents
  backlogs_eq : w.backlogs = w'.backlogs
  issued_eq : w.tickets.issued = w'.tickets.issued
  isCancelled_eq : w.tickets.isCancelled = w'.tickets.isCancelled

/-- **Documents may be scanned anew in any order.** -/
theorem coincides_reset_none (texts : Texts) (horder : order.Perm w.documents.keys) :
    (order.foldl (·.refresh texts ·) w).Coincides (w.reset texts none) := by
  have hnodup := Table.nodup_keys w.documents
  have h := rescans_foldl (horder.nodup_iff.2 hnodup) w texts
  have h' : w.Rescans texts w.documents.keys (w.reset texts none) := rescans_foldl hnodup w texts
  have hslot (id : DocumentId) :
      (order.foldl (·.refresh texts ·) w).slot id = (w.reset texts none).slot id := by
    rw [h.slot_eq, h'.slot_eq]
    simp only [horder.mem_iff]
  refine ⟨h.scheme_eq.trans h'.scheme_eq.symm,
    Table.ext_get? fun id => congrArg Slot.document (hslot id),
    Table.ext_get? fun id => congrArg Slot.backlog (hslot id),
    h.issued_eq.trans h'.issued_eq.symm, funext fun ticket => ?_⟩
  rw [Bool.eq_iff_iff, h.isCancelled_iff, h'.isCancelled_iff]
  simp only [horder.mem_iff]

/-- **The order does not matter.** Carrying out updates leads to the same workspace and the same
count in any order of the backlogs. Scanning all documents anew, under the old scheme or a new one,
leads to the same in any order of the documents. -/
structure Unordered (w : Workspace) : Prop where
  poll : ∀ (texts : Texts) (now : Nat) (order : List DocumentId) (result : Nat × Workspace),
    order.Perm w.backlogs.keys →
      (w.deliver (·.isDue now) order texts = .ok result ↔ w.poll texts now = .ok result)
  flush : ∀ (texts : Texts) (order : List DocumentId) (result : Nat × Workspace),
    order.Perm w.backlogs.keys →
      (w.deliver (fun _ => true) order texts = .ok result ↔ w.flush texts = .ok result)
  reset : ∀ (texts : Texts) (order : List DocumentId), order.Perm w.documents.keys →
    (order.foldl (·.refresh texts ·) w).Coincides (w.reset texts none)
  configure : ∀ (texts : Texts) (scheme : Scheme) (order : List DocumentId),
    order.Perm w.documents.keys →
      (order.foldl (fun w id => Workspace.refresh w texts id)
        { w with scheme, backlogs := ∅ }).Coincides (w.configure texts scheme)

theorem Sound.unordered (h : w.Sound) : w.Unordered where
  poll texts now _ result horder := h.deliver_perm (·.isDue now) texts horder result
  flush texts _ result horder := h.deliver_perm (fun _ => true) texts horder result
  reset texts _ horder := coincides_reset_none texts horder
  configure texts _ _ horder := coincides_reset_none texts horder

end Workspace

end BracketTint
