import Caixinha.Library.Fallible
import Caixinha.Model.PayoutDestinations
import Mathlib.Data.List.Nodup
import Mathlib.Logic.Relation

/-! The destination operations as chains of two kinds of steps: an active version is revoked, and
the next version of a member without an active one is added. -/
namespace Caixinha.Effects
open Caixinha.Model Caixinha.Library.Table Caixinha.Library.Fallible

variable {env : PayoutEnv} {payees payees' : Payees} {ds ds' : List PayoutDestination}
variable {d d' row : PayoutDestination} {mark : Mark} {memberId : Nat}

section Active

theorem mem_versionsOf : d ∈ versionsOf ds memberId ↔ d ∈ ds ∧ d.memberId = memberId := by
  simp [versionsOf]

theorem mem_activeDestinations :
    d ∈ activeDestinations ds memberId ↔ d ∈ ds ∧ d.memberId = memberId ∧ d.revoked = false := by
  simp [activeDestinations, mem_versionsOf, and_assoc]

theorem activeDestinations_eq_nil :
    activeDestinations ds memberId = [] ↔ ∀ d ∈ ds, d.memberId = memberId → d.revoked = true := by
  rw [List.eq_nil_iff_forall_not_mem]
  simp only [mem_activeDestinations, not_and, Bool.not_eq_false]

end Active

/-- The version with its revocation. -/
def revokedDestination (d : PayoutDestination) (mark : Mark) : PayoutDestination :=
  { d with status := d.status.revoke mark }

theorem revokedDestination_revoked : (revokedDestination d mark).revoked = true := by
  unfold revokedDestination PayoutDestination.revoked
  cases d.status <;> rfl

inductive DestinationStep (ds : List PayoutDestination) : List PayoutDestination → Prop
  | revoke {d : PayoutDestination} (mark : Mark) (hrow : lookup PayoutDestination.id ds d.id = some d)
      (hactive : d.revoked = false) :
      DestinationStep ds (replace PayoutDestination.id ds (revokedDestination d mark))
  | create {row : PayoutDestination} (hid : row.id = nextKey PayoutDestination.id ds)
      (hversion : row.version = nextVersion ds row.memberId) (hstatus : row.status = .unverified)
      (hactive : activeDestinations ds row.memberId = []) : DestinationStep ds (ds ++ [row])

abbrev DestinationSteps := Relation.ReflTransGen DestinationStep

section Invariant

/-- Versions of a member count from one in the order of creation, and two versions in use are
one and the same. -/
structure DestinationsSound (ds : List PayoutDestination) : Prop where
  keyed : Keyed PayoutDestination.id ds
  positive : ∀ d ∈ ds, 0 < d.id
  versions : ∀ memberId, (versionsOf ds memberId).map PayoutDestination.version =
    List.range' 1 (versionsOf ds memberId).length
  active : ∀ d ∈ ds, ∀ d' ∈ ds, d.memberId = d'.memberId → d.revoked = false → d'.revoked = false → d = d'

/-- The largest of the numbers counted from one. -/
theorem foldr_max_range' (n : Nat) : (List.range' 1 n).foldr max 0 = n := by
  induction n with
  | zero => rfl
  | succ n ih =>
    rw [List.range'_1_concat, List.foldr_append, List.foldr_cons, List.foldr_nil]
    have hshift : ∀ (xs : List Nat) (k : Nat), xs.foldr max k = max (xs.foldr max 0) k := by
      intro xs k
      induction xs with
      | nil => simp
      | cons x xs ihx => rw [List.foldr_cons, List.foldr_cons, ihx, Nat.max_assoc]
    rw [hshift, ih]
    omega

theorem DestinationsSound.nextVersion_eq (h : DestinationsSound ds) :
    nextVersion ds memberId = (versionsOf ds memberId).length + 1 := by
  rw [nextVersion, h.versions, foldr_max_range']

theorem DestinationsSound.nil : DestinationsSound [] where
  keyed := .nil
  positive := by simp
  versions := by simp [versionsOf]
  active := by simp

/-- Writing a version back with another status leaves the versions as they are. -/
private theorem map_versionsOf_replace {β : Type} (f : PayoutDestination → β) (hds : DestinationsSound ds)
    (hrow : lookup PayoutDestination.id ds d.id = some d) (hid : d'.id = d.id)
    (hmember : d'.memberId = d.memberId) (hf : f d' = f d) :
    (versionsOf (replace PayoutDestination.id ds d') memberId).map f =
      (versionsOf ds memberId).map f := by
  have hsame : ∀ x ∈ ds, (if x.id = d'.id then d' else x).memberId = x.memberId ∧
      f (if x.id = d'.id then d' else x) = f x := by
    intro x hx
    split
    · rename_i hkey
      have : x = d := eq_of_mem_of_key hds.keyed hx (lookup_mem hrow) (hkey.trans hid)
      rw [this]
      exact ⟨hmember, hf⟩
    · exact ⟨rfl, rfl⟩
  rw [versionsOf, versionsOf, replace, List.filter_map, List.map_map]
  have hfilter : ds.filter ((fun d => decide (d.memberId = memberId)) ∘
      fun x => if x.id = d'.id then d' else x) = ds.filter (fun d => d.memberId = memberId) := by
    apply List.filter_congr
    intro x hx
    simp only [Function.comp_apply]
    rw [(hsame x hx).1]
  rw [hfilter]
  apply List.map_congr_left
  intro x hx
  exact (hsame x (List.mem_filter.mp hx).1).2

theorem DestinationsSound.revoke (hds : DestinationsSound ds)
    (hrow : lookup PayoutDestination.id ds d.id = some d) :
    DestinationsSound (replace PayoutDestination.id ds (revokedDestination d mark)) where
  keyed := keyed_replace hds.keyed
  positive := forall_mem_replace hds.positive (hds.positive d (lookup_mem hrow))
  versions := by
    intro memberId
    have hversion := @map_versionsOf_replace ds d (revokedDestination d mark) memberId Nat
      PayoutDestination.version hds hrow rfl rfl rfl
    have hlength := congrArg List.length hversion
    rw [List.length_map, List.length_map] at hlength
    rw [hversion, hlength, hds.versions]
  active := by
    intro x hx y hy hmember hxactive hyactive
    rcases mem_replace hx with rfl | hx
    · rw [revokedDestination_revoked] at hxactive
      cases hxactive
    · rcases mem_replace hy with rfl | hy
      · rw [revokedDestination_revoked] at hyactive
        cases hyactive
      · exact hds.active x hx y hy hmember hxactive hyactive

theorem DestinationsSound.create (hds : DestinationsSound ds)
    (hid : row.id = nextKey PayoutDestination.id ds)
    (hversion : row.version = nextVersion ds row.memberId)
    (hactive : activeDestinations ds row.memberId = []) : DestinationsSound (ds ++ [row]) where
  keyed := keyed_append hds.keyed hid
  positive := by
    intro x hx
    rcases List.mem_append.mp hx with hx | hx
    · exact hds.positive x hx
    · rw [List.mem_singleton.mp hx, hid, nextKey]
      omega
  versions := by
    intro memberId
    by_cases hmember : row.memberId = memberId
    · have happend : versionsOf (ds ++ [row]) memberId = versionsOf ds memberId ++ [row] := by
        simp [versionsOf, hmember]
      rw [happend, List.map_append, hds.versions, List.length_append, List.length_singleton,
        List.range'_1_concat, List.map_singleton, hversion, hds.nextVersion_eq, hmember, Nat.add_comm 1]
    · have happend : versionsOf (ds ++ [row]) memberId = versionsOf ds memberId := by
        simp [versionsOf, hmember]
      rw [happend]
      exact hds.versions memberId
  active := by
    have hnone := activeDestinations_eq_nil.mp hactive
    intro x hx y hy hmember hxactive hyactive
    rcases List.mem_append.mp hx with hx | hx <;> rcases List.mem_append.mp hy with hy | hy
    · exact hds.active x hx y hy hmember hxactive hyactive
    · rw [List.mem_singleton.mp hy] at hmember
      rw [hnone x hx hmember] at hxactive
      cases hxactive
    · rw [List.mem_singleton.mp hx] at hmember
      rw [hnone y hy hmember.symm] at hyactive
      cases hyactive
    · rw [List.mem_singleton.mp hx, List.mem_singleton.mp hy]

theorem DestinationsSound.step (hds : DestinationsSound ds) (h : DestinationStep ds ds') :
    DestinationsSound ds' := by
  cases h with
  | revoke mark hrow _ => exact hds.revoke hrow
  | create hid hversion _ hactive => exact hds.create hid hversion hactive

theorem DestinationsSound.steps (hds : DestinationsSound ds) (h : DestinationSteps ds ds') :
    DestinationsSound ds' := by
  induction h with
  | refl => exact hds
  | tail _ hstep ih => exact ih.step hstep

/-- At most one version of a member is in use. -/
theorem DestinationsSound.one_active (hds : DestinationsSound ds) (memberId : Nat) :
    (activeDestinations ds memberId).length ≤ 1 := by
  have hnodup : (activeDestinations ds memberId).Nodup :=
    ((List.Nodup.of_map _ hds.keyed).filter _).filter _
  have heq : ∀ x ∈ activeDestinations ds memberId, ∀ y ∈ activeDestinations ds memberId, x = y := by
    intro x hx y hy
    obtain ⟨hx, hxmember, hxactive⟩ := mem_activeDestinations.mp hx
    obtain ⟨hy, hymember, hyactive⟩ := mem_activeDestinations.mp hy
    exact hds.active x hx y hy (hxmember.trans hymember.symm) hxactive hyactive
  rcases hlist : activeDestinations ds memberId with _ | ⟨x, _ | ⟨y, rest⟩⟩
  · simp
  · simp
  · rw [hlist] at hnodup heq
    have hxy : x = y := heq x (by simp) y (by simp)
    rw [hxy] at hnodup
    simp at hnodup

theorem DestinationsSound.version_pos (hds : DestinationsSound ds) (hd : d ∈ ds) : 0 < d.version := by
  have hmem : d.version ∈ (versionsOf ds d.memberId).map PayoutDestination.version :=
    List.mem_map_of_mem (mem_versionsOf.mpr ⟨hd, rfl⟩)
  rw [hds.versions, List.mem_range'_1] at hmem
  omega

end Invariant

section History

/-- A later reading of the version: nothing but the status differs, and a revoked one is final. -/
def VersionKept (d d' : PayoutDestination) : Prop :=
  d' = { d with status := d'.status } ∧ (d.revoked = true → d' = d)

theorem VersionKept.refl : VersionKept d d := ⟨rfl, fun _ => rfl⟩

theorem VersionKept.trans {x : PayoutDestination} (h : VersionKept d d') (h' : VersionKept d' x) :
    VersionKept d x := by
  refine ⟨?_, ?_⟩
  · rw [h'.1, h.1]
  · intro hrevoked
    have hd := h.2 hrevoked
    rw [← hd] at hrevoked
    rw [h'.2 hrevoked, hd]

/-- Every version of the first table is kept in the second. -/
def VersionsKept (ds ds' : List PayoutDestination) : Prop :=
  ∀ d, lookup PayoutDestination.id ds d.id = some d →
    ∃ d', lookup PayoutDestination.id ds' d.id = some d' ∧ VersionKept d d'

theorem VersionsKept.refl : VersionsKept ds ds := fun d hd => ⟨d, hd, .refl⟩

theorem VersionsKept.trans {es : List PayoutDestination} (h : VersionsKept ds ds')
    (h' : VersionsKept ds' es) : VersionsKept ds es := by
  intro d hd
  obtain ⟨x, hx, hkept⟩ := h d hd
  have hid : x.id = d.id := lookup_key hx
  obtain ⟨y, hy, hkept'⟩ := h' x (hid.symm ▸ hx)
  exact ⟨y, hid ▸ hy, hkept.trans hkept'⟩

theorem DestinationStep.kept (h : DestinationStep ds ds') : VersionsKept ds ds' := by
  intro x hx
  cases h with
  | @revoke d mark hrow hactive =>
    by_cases hid : x.id = d.id
    · have hxd : x = d := Option.some.inj (hx.symm.trans (hid ▸ hrow))
      subst hxd
      refine ⟨revokedDestination x mark, lookup_replace_self (r := revokedDestination x mark) hrow,
        rfl, ?_⟩
      intro hrevoked
      rw [hactive] at hrevoked
      cases hrevoked
    · exact ⟨x, (lookup_replace_ne (r := revokedDestination d mark) hid).trans hx, .refl⟩
  | create _ _ _ _ => exact ⟨x, lookup_append_of_some hx, .refl⟩

theorem DestinationSteps.kept (h : DestinationSteps ds ds') : VersionsKept ds ds' := by
  induction h with
  | refl => exact .refl
  | tail _ hstep ih => exact ih.trans hstep.kept

end History

section Operations
variable {keyType value : String} {actorId destinationId : Nat} {now : Int}

private theorem newDestination_spec {version : Nat} {kind : KeyType} {normalized : String}
    (h : newDestination env payees memberId version kind normalized actorId now = .ok row) :
    row.id = nextKey PayoutDestination.id payees.destinations ∧ row.memberId = memberId ∧
      row.version = version ∧ row.status = .unverified := by
  simp only [newDestination, bind_eq_ok, pure_eq_ok] at h
  obtain ⟨_, -, _, -, rfl⟩ := h
  exact ⟨rfl, rfl, rfl, rfl⟩

private theorem insertDestination_spec (h : insertDestination ds row = .ok ds')
    (hstatus : row.status = .unverified) :
    ds' = ds ++ [row] ∧ activeDestinations ds row.memberId = [] := by
  have hactive : row.revoked = false := by
    rw [PayoutDestination.revoked, hstatus]
    rfl
  simp only [insertDestination, bind_eq_ok, pure_eq_ok, raiseWhen_eq_ok, hactive] at h
  obtain ⟨_, -, _, hnone, rfl⟩ := h
  exact ⟨rfl, by simpa using hnone⟩

theorem steps_createUnverifiedDestination
    (h : createUnverifiedDestination env payees memberId keyType value actorId now =
      .ok (payees', row)) :
    ∃ ds, payees' = { payees with destinations := ds } ∧ DestinationSteps payees.destinations ds := by
  simp only [createUnverifiedDestination, bind_eq_ok, pure_eq_ok, Prod.mk.injEq] at h
  obtain ⟨kind, -, normalized, -, _, -, _, -, active, -, _, -, x, hnew, ds, hinsert, rfl, rfl⟩ := h
  obtain ⟨hid, hmember, hversion, hstatus⟩ := newDestination_spec hnew
  obtain ⟨rfl, hnone⟩ := insertDestination_spec hinsert hstatus
  exact ⟨_, rfl, .single (.create hid (hmember.symm ▸ hversion) hstatus hnone)⟩

theorem steps_revokeDestination
    (h : revokeDestination payees destinationId actorId now = .ok (payees', row)) :
    ∃ ds, payees' = { payees with destinations := ds } ∧ DestinationSteps payees.destinations ds := by
  simp only [revokeDestination, bind_eq_ok, pure_eq_ok, Prod.mk.injEq, orRaise_eq_ok,
    raiseWhen_eq_ok] at h
  obtain ⟨d, hd, _, -, _, -, _, hactive, rfl, -⟩ := h
  have hrow : lookup PayoutDestination.id payees.destinations d.id = some d := (lookup_key hd).symm ▸ hd
  exact ⟨_, rfl, .single (.revoke _ hrow (by simpa using hactive))⟩

theorem steps_replaceDestination
    (h : replaceDestination env payees memberId keyType value actorId now = .ok (payees', row))
    (hds : DestinationsSound payees.destinations) :
    ∃ ds, payees' = { payees with destinations := ds } ∧ DestinationSteps payees.destinations ds := by
  simp only [replaceDestination, bind_eq_ok, pure_eq_ok, Prod.mk.injEq, orRaise_eq_ok] at h
  obtain ⟨kind, -, normalized, -, _, -, _, -, active, hactive, current, rfl, x, hnew, ds, hinsert,
    rfl, rfl⟩ := h
  obtain ⟨hid, hmember, hversion, hstatus⟩ := newDestination_spec hnew
  obtain ⟨rfl, hnone⟩ := insertDestination_spec hinsert hstatus
  have hcurrent : current ∈ activeDestinations payees.destinations memberId := by
    rw [oneOrNone_some.mp hactive]
    simp
  obtain ⟨hmem, -, hused⟩ := mem_activeDestinations.mp hcurrent
  have hrow := lookup_of_mem hds.keyed hmem
  refine ⟨_, rfl, .tail (.single (.revoke { instant := now, user := actorId } hrow hused))
    (.create ?_ ?_ hstatus hnone)⟩
  · rw [hid, nextKey_of_keys keys_replace]
  · rw [hversion, (hds.revoke hrow).nextVersion_eq, hds.nextVersion_eq, hmember]
    have hlength := congrArg List.length (@map_versionsOf_replace payees.destinations current
      (revokedDestination current { instant := now, user := actorId }) memberId Nat
      PayoutDestination.version hds hrow rfl rfl rfl)
    rw [List.length_map, List.length_map] at hlength
    rw [hlength]

end Operations

end Caixinha.Effects
