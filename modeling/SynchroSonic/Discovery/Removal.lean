import SynchroSonic.Discovery.ChangeLog
import Mathlib.Data.List.Find

/-!
# Removal by full name

Devices are kept under their identifiers, and a service that goes away is known by its full name.
`mark_removed_by_fullname` removes the first entry with that name which the walk through the registry
meets. That is all of them, whatever the walk, exactly if no name is kept twice (`removal_complete_iff`);
and no name is if every name was announced by one device only (`removal_complete_of_announcements`).
-/

namespace SynchroSonic

namespace DeviceRegistry

variable {registry : DeviceRegistry} {fullname : String} {order : List DeviceId}

/-- The entry under this identifier has this full name. -/
def Named (deviceId : DeviceId) (fullname : String) (registry : DeviceRegistry) : Prop :=
  ∃ entry, registry.devices.lookup deviceId = some entry ∧ entry.device.serviceFullname = fullname

/-- At most one entry has this full name. -/
def KeptOnce (fullname : String) (registry : DeviceRegistry) : Prop :=
  ∀ deviceId deviceId', registry.Named deviceId fullname → registry.Named deviceId' fullname →
    deviceId = deviceId'

/-- Removal by this full name leaves nothing behind, tells what it has removed, touches no other entry
and does not depend on the walk. -/
structure RemovesAll (fullname : String) (registry : DeviceRegistry) : Prop where
  gone : ∀ order, order.Perm registry.devices.keys → ∀ deviceId,
    ¬(registry.markRemovedByFullname order fullname).2.Named deviceId fullname
  reported : ∀ order, order.Perm registry.devices.keys → ∀ deviceId,
    (registry.markRemovedByFullname order fullname).1 = some (.deviceRemoved deviceId fullname) ↔
      registry.Named deviceId fullname
  reports : ∀ order, order.Perm registry.devices.keys → ∀ event,
    (registry.markRemovedByFullname order fullname).1 = some event →
      ∃ deviceId, event = .deviceRemoved deviceId fullname
  untouched : ∀ order, order.Perm registry.devices.keys → ∀ deviceId,
    ¬registry.Named deviceId fullname →
      (registry.markRemovedByFullname order fullname).2.devices.lookup deviceId =
        registry.devices.lookup deviceId
  unordered : ∀ order order', order.Perm registry.devices.keys → order'.Perm registry.devices.keys →
    registry.markRemovedByFullname order fullname = registry.markRemovedByFullname order' fullname

theorem any_lookup_iff (deviceId : DeviceId) :
    ((registry.devices.lookup deviceId).any fun entry ↦ entry.device.serviceFullname == fullname) =
      true ↔ registry.Named deviceId fullname := by
  rw [Option.any_eq_true]
  exact exists_congr fun entry ↦ and_congr_right fun _ ↦ beq_iff_eq

/-- **One entry with the name goes**, or there is none. -/
theorem markRemovedByFullname_cases (fullname : String) (hwalk : order.Perm registry.devices.keys) :
    (∃ deviceId, registry.Named deviceId fullname ∧ registry.markRemovedByFullname order fullname =
        (some (.deviceRemoved deviceId fullname), registry.remove deviceId)) ∨
      (∀ deviceId, ¬registry.Named deviceId fullname) ∧
        registry.markRemovedByFullname order fullname = (none, registry) := by
  unfold markRemovedByFullname
  split
  next deviceId hfound =>
    have hnamed := List.find?_some hfound
    exact Or.inl ⟨deviceId, (any_lookup_iff deviceId).1 hnamed, rfl⟩
  next hnone =>
    refine Or.inr ⟨fun deviceId hnamed ↦ ?_, rfl⟩
    obtain ⟨entry, hentry, -⟩ := id hnamed
    have hmem : deviceId ∈ order := by
      refine hwalk.mem_iff.2 (AList.lookup_isSome.1 ?_)
      rw [hentry, Option.isSome_some]
    exact List.find?_eq_none.1 hnone deviceId hmem ((any_lookup_iff deviceId).2 hnamed)

theorem named_remove_iff {removed deviceId : DeviceId} :
    (registry.remove removed).Named deviceId fullname ↔
      deviceId ≠ removed ∧ registry.Named deviceId fullname := by
  rw [Named, Named, remove]
  by_cases heq : deviceId = removed
  · subst heq
    refine iff_of_false ?_ fun h ↦ h.1 rfl
    rintro ⟨entry, hentry, -⟩
    rw [AList.lookup_erase] at hentry
    exact Option.some_ne_none entry hentry.symm
  · rw [AList.lookup_erase_ne heq, and_iff_right heq]

/-- **Removal by a name removes all of it exactly if it is kept once.** -/
theorem removesAll_iff : registry.RemovesAll fullname ↔ registry.KeptOnce fullname := by
  constructor
  · intro hall deviceId deviceId' hnamed hnamed'
    have hgone := hall.gone registry.devices.keys (List.Perm.refl _)
    rcases markRemovedByFullname_cases fullname (List.Perm.refl registry.devices.keys) with
      ⟨removed, -, hremoved⟩ | ⟨hnone, -⟩
    · -- whichever of the two it is not that was removed would still be there
      rw [hremoved] at hgone
      have hremains {kept : DeviceId} (hkept : registry.Named kept fullname) : kept = removed := by
        by_contra hne
        exact hgone kept (named_remove_iff.2 ⟨hne, hkept⟩)
      exact (hremains hnamed).trans (hremains hnamed').symm
    · exact absurd hnamed (hnone deviceId)
  · intro honce
    refine ⟨fun order hwalk deviceId ↦ ?_, fun order hwalk deviceId ↦ ?_,
      fun order hwalk event hevent ↦ ?_, fun order hwalk deviceId hother ↦ ?_,
      fun order order' hwalk hwalk' ↦ ?_⟩
    · rcases markRemovedByFullname_cases fullname hwalk with ⟨removed, hnamed, hremoved⟩ | ⟨hnone, hsame⟩
      · rw [hremoved, named_remove_iff]
        rintro ⟨hne, hstill⟩
        exact hne (honce deviceId removed hstill hnamed)
      · rw [hsame]
        exact hnone deviceId
    · rcases markRemovedByFullname_cases fullname hwalk with ⟨removed, hnamed, hremoved⟩ | ⟨hnone, hsame⟩
      · rw [hremoved, Option.some.injEq, DiscoveryEvent.deviceRemoved.injEq, and_iff_left rfl]
        constructor
        · rintro rfl
          exact hnamed
        · exact honce removed deviceId hnamed
      · rw [hsame]
        exact iff_of_false (Option.some_ne_none _).symm (hnone deviceId)
    · rcases markRemovedByFullname_cases fullname hwalk with ⟨removed, hnamed, hremoved⟩ | ⟨hnone, hsame⟩
      · rw [hremoved] at hevent
        exact ⟨removed, (Option.some.inj hevent).symm⟩
      · rw [hsame] at hevent
        exact absurd hevent.symm (Option.some_ne_none event)
    · rcases markRemovedByFullname_cases fullname hwalk with ⟨removed, hnamed, hremoved⟩ | ⟨hnone, hsame⟩
      · rw [hremoved]
        exact AList.lookup_erase_ne fun heq ↦ hother (heq ▸ hnamed)
      · rw [hsame]
    · have hfound := List.find?_eq_find?_of_perm (hwalk.trans hwalk'.symm)
        (fun deviceId h deviceId' h' ↦ honce deviceId deviceId' ((any_lookup_iff deviceId).1 h.2)
          ((any_lookup_iff deviceId').1 h'.2))
      rw [markRemovedByFullname, markRemovedByFullname, hfound]

theorem named_insert {deviceId other : DeviceId} {entry : RegistryEntry}
    (h : (registry.insert deviceId entry).Named other fullname) :
    (other = deviceId ∧ entry.device.serviceFullname = fullname) ∨ registry.Named other fullname := by
  obtain ⟨found, hfound, hname⟩ := h
  rw [insert] at hfound
  by_cases heq : other = deviceId
  · subst heq
    rw [AList.lookup_insert] at hfound
    obtain rfl := Option.some.inj hfound
    exact Or.inl ⟨rfl, hname⟩
  · rw [AList.lookup_insert_ne heq] at hfound
    exact Or.inr ⟨found, hfound, hname⟩

/-- A change brings in no name but the announced one. -/
theorem named_change {change : RegistryChange} {deviceId : DeviceId}
    (h : (registry.change change).2.Named deviceId fullname) :
    registry.Named deviceId fullname ∨ ∃ nowUnixMs now device,
      change = .upserted nowUnixMs now device ∧ device.id = deviceId ∧
        device.serviceFullname = fullname := by
  cases change with
  | upserted nowUnixMs now device =>
    replace h : (registry.upsert nowUnixMs now device).2.Named deviceId fullname := h
    rw [upsert] at h
    rcases hlookup : registry.devices.lookup device.id with - | entry
    · rw [hlookup] at h
      rcases named_insert h with ⟨rfl, hname⟩ | hnamed
      · exact Or.inr ⟨nowUnixMs, now, device, rfl, rfl, hname⟩
      · exact Or.inl hnamed
    · rw [hlookup] at h
      rcases named_insert h with ⟨rfl, hname⟩ | hnamed
      · exact Or.inr ⟨nowUnixMs, now, device, rfl, rfl, hname⟩
      · exact Or.inl hnamed
  | removed order name =>
    replace h : (registry.markRemovedByFullname order name).2.Named deviceId fullname := h
    unfold markRemovedByFullname at h
    split at h
    · exact Or.inl (named_remove_iff.1 h).2
    · exact Or.inl h
  | pruned now pruned =>
    replace h : (registry.pruneEntry now pruned).2.Named deviceId fullname := h
    rcases pruneEntry_cases now pruned registry with ⟨entry, hlookup, -, hprune⟩ | hprune
    · rw [hprune] at h
      rcases named_insert h with ⟨rfl, hname⟩ | hnamed
      · exact Or.inl ⟨entry, hlookup, hname⟩
      · exact Or.inl hnamed
    · rw [hprune] at h
      exact Or.inl h

end DeviceRegistry

namespace LoggedRegistry

/-- A removal by full name is complete. -/
def RemovalComplete (logged : LoggedRegistry) : RegistryInput → Prop
  | .markRemovedByFullname _ fullname => logged.registry.RemovesAll fullname
  | _ => True

/-- The name of a removal is kept at most once. -/
def RemovalUnique (logged : LoggedRegistry) : RegistryInput → Prop
  | .markRemovedByFullname _ fullname => logged.registry.KeptOnce fullname
  | _ => True

/-- **A removed service leaves nothing behind**, all along a history, exactly when no removal meets a name
that is kept under two identifiers. -/
theorem removal_complete_iff (staleTimeout : Duration) (inputs : List RegistryInput) :
    Transition.Along step RemovalComplete (new staleTimeout) inputs ↔
      Transition.Along step RemovalUnique (new staleTimeout) inputs := by
  have hsame : RemovalComplete = RemovalUnique := by
    funext logged input
    cases input with
    | upsert nowUnixMs now device => rfl
    | markRemovedByFullname order fullname => exact propext DeviceRegistry.removesAll_iff
    | pruneStale order now => rfl
  rw [hsame]

/-! ### Names that one device announces -/

/-- The input announces this device under this full name. -/
def Announces (deviceId : DeviceId) (fullname : String) (input : RegistryInput) : Prop :=
  ∃ nowUnixMs now device, input = .upsert nowUnixMs now device ∧ device.id = deviceId ∧
    device.serviceFullname = fullname

/-- **Every name in the registry was announced.** -/
theorem announced_of_run {staleTimeout : Duration} {inputs : List RegistryInput}
    {logged : LoggedRegistry}
    (hrun : Transition.run step (new staleTimeout) inputs = some logged) {deviceId : DeviceId}
    {fullname : String} (hnamed : logged.registry.Named deviceId fullname) :
    ∃ input ∈ inputs, Announces deviceId fullname input := by
  refine Transition.run_history (I := fun inputs logged ↦ ∀ deviceId fullname,
    logged.registry.Named deviceId fullname → ∃ input ∈ inputs, Announces deviceId fullname input)
    (fun before logged input next hbefore hstep ↦ ?_) ?_ hrun deviceId fullname hnamed
  · refine step_invariant (I := fun reached ↦ ∀ deviceId fullname,
      reached.registry.Named deviceId fullname →
        ∃ earlier ∈ before ++ [input], Announces deviceId fullname earlier)
      (fun reached change hmem hreached deviceId fullname hnamed ↦ ?_)
      (fun deviceId fullname hnamed ↦ ?_) hstep
    · rcases DeviceRegistry.named_change hnamed with hnamed | ⟨nowUnixMs, now, device, rfl, hid, hname⟩
      · exact hreached deviceId fullname hnamed
      · refine ⟨input, List.mem_append_right _ List.mem_cons_self, nowUnixMs, now, device, ?_, hid,
          hname⟩
        -- the change that announces is the whole call
        cases input with
        | upsert nowUnixMs' now' device' =>
          obtain ⟨rfl, rfl, rfl⟩ := RegistryChange.upserted.inj (List.mem_singleton.1 hmem)
          rfl
        | markRemovedByFullname order name => cases List.mem_singleton.1 hmem
        | pruneStale order times =>
          obtain ⟨pruned, -, hpruned⟩ := List.mem_map.1 hmem
          cases hpruned
    · obtain ⟨earlier, hearlier, hannounces⟩ := hbefore deviceId fullname hnamed
      exact ⟨earlier, List.mem_append_left _ hearlier, hannounces⟩
  · rintro deviceId fullname ⟨entry, hentry, -⟩
    exact absurd hentry.symm (Option.some_ne_none entry)

/-- Where every full name is announced by one device, removals are complete. -/
theorem removal_complete_of_announcements (staleTimeout : Duration) (inputs : List RegistryInput)
    (hinputs : ∀ input ∈ inputs, ∀ input' ∈ inputs, ∀ deviceId deviceId' fullname,
      Announces deviceId fullname input → Announces deviceId' fullname input' →
        deviceId = deviceId') :
    Transition.Along step RemovalComplete (new staleTimeout) inputs := by
  refine (removal_complete_iff staleTimeout inputs).2
    (Transition.along_of_prefix fun before input logged hbefore hrun ↦ ?_)
  cases input with
  | upsert nowUnixMs now device => trivial
  | markRemovedByFullname order fullname =>
    intro deviceId deviceId' hnamed hnamed'
    obtain ⟨input, hinput, hannounces⟩ := announced_of_run hrun hnamed
    obtain ⟨input', hinput', hannounces'⟩ := announced_of_run hrun hnamed'
    have hmem {input : RegistryInput} (h : input ∈ before) : input ∈ inputs :=
      hbefore.subset (List.mem_append_left _ h)
    exact hinputs input (hmem hinput) input' (hmem hinput') deviceId deviceId' fullname hannounces
      hannounces'
  | pruneStale order now => trivial

end LoggedRegistry

namespace Sample

/-- The same service, announced under another identifier after a new installation. -/
def reinstalled : DiscoveredDevice := { discovered 0xc0a8087f with id := ⟨"device-2"⟩ }

/-- Both announcements of the service. -/
def announcedTwice : List RegistryInput :=
  [.upsert 1 0 (discovered 0xc0a8087f), .upsert 2 10 reinstalled]

end Sample

namespace LoggedRegistry

/-- The service goes away, and one of its two entries stays. -/
theorem removal_incomplete :
    ¬∀ (staleTimeout : Duration) (inputs : List RegistryInput),
      Transition.Along step RemovalComplete (new staleTimeout) inputs := by
  intro hall
  have hrun : (Transition.run step (new 30) Sample.announcedTwice).map (fun logged ↦
      (logged.registry.devices.lookup Sample.discoveredId,
        logged.registry.devices.lookup Sample.reinstalled.id)) =
      some (some ⟨{ Sample.discovered 0xc0a8087f with lastSeenUnixMs := 1 }, 0, false⟩,
        some ⟨{ Sample.reinstalled with lastSeenUnixMs := 2 }, 10, false⟩) := by
    decide +kernel
  obtain ⟨reached, hrun, hentries⟩ := Option.map_eq_some_iff.1 hrun
  obtain ⟨hfirst, hsecond⟩ := Prod.mk.inj hentries
  have hremoved := Transition.holds_of_along (hall 30 (Sample.announcedTwice ++
    [.markRemovedByFullname [] "receiver._synchrosonic._tcp.local."])) hrun
  have honce := DeviceRegistry.removesAll_iff.1 hremoved
  exact absurd (honce _ _ ⟨_, hfirst, rfl⟩ ⟨_, hsecond, rfl⟩) (by decide)

end LoggedRegistry

end SynchroSonic
