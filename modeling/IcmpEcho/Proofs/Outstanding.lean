/-
# What is outstanding

`Engine.pending` are the pings whose callers were not told.  **The pings are those that were told of
and those that are pending** (`Books.perm_pings`), so the counter of the service and the number of
pending pings agree in 32 bits.

They agree as numbers (`Books.outstanding_eq`): a pending ping is refused by a ready task, or it is
the only call of its pinger with its sequence number.  So at most 65536 pings of a target are
pending, and those that are refused; with up to 32768 targets all of them are fewer than 2³².
-/
import IcmpEcho.Proofs.Rounds
import Mathlib.Data.List.ProdSigma
import Mathlib.Data.List.Perm.Subperm

namespace IcmpEcho

variable {e : Engine} {service : Service} {begun : Nat}

namespace Engine

/-- The pings whose callers were not told. -/
def pending (e : Engine) : List Ping := e.pings.filter fun ping => e.told ping.number = 0

theorem mem_pending {ping : Ping} : ping ∈ e.pending ↔ ping ∈ e.pings ∧ e.told ping.number = 0 := by
  simp [pending]

/-- How often a target was told how one of its pings ended. -/
def answersTo (e : Engine) (index : Nat) : Nat :=
  e.endings.countP fun ending => e.toldTo ending = some index

/-- What a target is told is a reply or a failure. -/
theorem answersTo_eq (index : Nat) : e.answersTo index = e.repliesTo index + e.failuresOf index := by
  unfold answersTo repliesTo failuresOf
  induction e.endings with
  | nil => rfl
  | cons ending rest ih =>
    simp only [List.countP_cons, ih]
    cases ending.code.isError <;> by_cases h : e.toldTo ending = some index <;> simp [h] <;> omega

end Engine

namespace Books

/-! ## 1. Told or pending -/

/-- Every ending is that of a ping that was asked for. -/
theorem ping?_of_ending (hb : Books begun service e) (hs : Sound {} e) :
    ∀ ending ∈ e.endings, (e.ping? ending.ping).map Ping.number = some ending.ping := by
  intro ending hmem
  obtain ⟨ping, hping⟩ := Option.isSome_iff_exists.1 ((hs.ledger.known _).2 (hb.known ending hmem))
  rw [hping, Option.map_some, (hb.ping?_eq_some.1 hping).2]

theorem numbers_told (hb : Books begun service e) (hs : Sound {} e) :
    (e.endings.filterMap fun ending => e.ping? ending.ping).map Ping.number
      = e.endings.map Ending.ping := by
  rw [List.map_filterMap, ← List.filterMap_eq_map]
  exact List.filterMap_congr (hb.ping?_of_ending hs)

/-- **Nobody is told twice.** -/
theorem nodup_endings (hb : Books begun service e) (hs : Sound {} e) :
    (e.endings.map Ending.ping).Nodup := by
  refine List.nodup_iff_count_le_one.2 fun number => ?_
  have htold : (e.endings.map Ending.ping).count number = e.told number := by
    rw [List.count_eq_countP, List.countP_map]
    rfl
  rw [htold]
  cases hping : e.ping? number with
  | some ping =>
    have haccounts := (hs.accounts hping).once
    omega
  | none =>
    have hzero : e.told number = 0 := by
      refine List.countP_eq_zero.2 fun ending hmem hnumber => ?_
      have hnumber : ending.ping = number := of_decide_eq_true hnumber
      have hsome := hb.ping?_of_ending hs ending hmem
      rw [hnumber, hping] at hsome
      cases hsome
    omega

theorem mem_told (hb : Books begun service e) {ping : Ping} :
    ping ∈ (e.endings.filterMap fun ending => e.ping? ending.ping) ↔
      ping ∈ e.pings ∧ e.told ping.number ≠ 0 := by
  rw [List.mem_filterMap]
  constructor
  · rintro ⟨ending, hmem, hping⟩
    obtain ⟨hasked, hnumber⟩ := hb.ping?_eq_some.1 hping
    refine ⟨hasked, Nat.ne_of_gt (List.countP_pos_iff.2 ⟨ending, hmem, ?_⟩)⟩
    simpa using hnumber.symm
  · rintro ⟨hasked, htold⟩
    obtain ⟨ending, hmem, hnumber⟩ := List.countP_pos_iff.1 (Nat.pos_of_ne_zero htold)
    have hnumber : ending.ping = ping.number := of_decide_eq_true hnumber
    exact ⟨ending, hmem, hb.ping?_eq_some.2 ⟨hasked, hnumber.symm⟩⟩

/-- **Every ping was told of, or is pending.** -/
theorem perm_pings (hb : Books begun service e) (hs : Sound {} e) :
    ((e.endings.filterMap fun ending => e.ping? ending.ping) ++ e.pending).Perm e.pings := by
  have htold : (e.endings.filterMap fun ending => e.ping? ending.ping).Nodup :=
    .of_map _ (by rw [hb.numbers_told hs]; exact hb.nodup_endings hs)
  have hpings : e.pings.Nodup := .of_map _ hb.nodup
  have hdisjoint : (e.endings.filterMap fun ending => e.ping? ending.ping).Disjoint e.pending :=
    fun _ hmem hpending => (hb.mem_told.1 hmem).2 (Engine.mem_pending.1 hpending).2
  have hpending : e.pending.Nodup := hpings.filter _
  refine (List.perm_ext_iff_of_nodup (htold.append hpending hdisjoint) hpings).2 fun ping => ?_
  rw [List.mem_append, hb.mem_told, Engine.mem_pending]
  tauto

/-- The pings that were asked for are those that were told of and those that are pending. -/
theorem length_pings (hb : Books begun service e) (hs : Sound {} e) :
    e.pings.length = e.endings.length + e.pending.length := by
  have htold := congrArg List.length (hb.numbers_told hs)
  rw [List.length_map, List.length_map] at htold
  rw [← (hb.perm_pings hs).length_eq, List.length_append, htold]

/-- **A target is told of no more pings than it asked for.** -/
theorem askedBy_eq (hb : Books begun service e) (hs : Sound {} e) (index : Nat) :
    e.askedBy index = e.answersTo index + e.pending.countP fun ping => ping.target? = some index := by
  have hcount := (hb.perm_pings hs).countP_eq fun ping => ping.target? = some index
  rw [List.countP_append, List.countP_filterMap] at hcount
  rw [Engine.askedBy, ← hcount]
  congr 1
  refine List.countP_congr fun ending _ => ?_
  unfold Engine.toldTo
  cases e.ping? ending.ping <;> simp

/-! ## 2. How many can be pending -/

/-- Pending pings that no task refuses differ in the pinger or in the sequence number. -/
theorem inj_on_entered (hb : Books begun service e) (hs : Sound {} e) :
    ∀ ping ∈ e.pending.filter (fun ping => e.refused ping.number = 0),
      ∀ other ∈ e.pending.filter (fun ping => e.refused ping.number = 0),
        (ping.pinger, ping.token.sequence.toNat) = (other.pinger, other.token.sequence.toNat) →
          ping = other := by
  have hcall : ∀ ping ∈ e.pending.filter (fun ping => e.refused ping.number = 0),
      ∃ call ∈ e.callsOf ping.pinger, call.timer = ping.number := by
    intro ping hmem
    obtain ⟨hpending, hrefused⟩ := List.mem_filter.1 hmem
    obtain ⟨hasked, htold⟩ := Engine.mem_pending.1 hpending
    have honce := (hs.accounts (hb.ping?_eq_some.2 ⟨hasked, rfl⟩)).once
    have hentered : 0 < e.entered ping.pinger ping.number := by
      have hrefused : e.refused ping.number = 0 := of_decide_eq_true hrefused
      omega
    obtain ⟨call, hcall, htimer⟩ := List.countP_pos_iff.1 hentered
    exact ⟨call, hcall, of_decide_eq_true htimer⟩
  intro ping hping other hother hsame
  obtain ⟨hpinger, hsequence⟩ := Prod.mk.inj hsame
  obtain ⟨call, hcalled, htimer⟩ := hcall ping hping
  obtain ⟨call', hcalled', htimer'⟩ := hcall other hother
  have hasked := (Engine.mem_pending.1 (List.mem_filter.1 hping).1).1
  have hasked' := (Engine.mem_pending.1 (List.mem_filter.1 hother).1).1
  have htoken : other.token = ping.token := by
    obtain ⟨-, target, pinger, -, -, howner, hp, hidentifier⟩ := (hb.owned ping hasked).owner
    obtain ⟨-, target', pinger', -, -, howner', hp', hidentifier'⟩ := (hb.owned other hasked').owner
    rw [← howner] at hp
    rw [← howner', ← hpinger] at hp'
    obtain rfl := Option.some.inj (hp.symm.trans hp')
    have hidentifier := hidentifier'.trans hidentifier.symm
    have hsequence := UInt16.toNat_inj.1 hsequence.symm
    cases hfirst : other.token
    cases hsecond : ping.token
    simp_all
  have hfound := hb.ping?_eq_some.2 ⟨hasked, rfl⟩
  have hfound' := hb.ping?_eq_some.2 ⟨hasked', rfl⟩
  obtain ⟨-, honly, -⟩ := (hs.accounts hfound).call call hcalled htimer
  rw [← hpinger] at hcalled'
  obtain ⟨hrecords', -, -⟩ := (hs.accounts hfound').call call' (hpinger ▸ hcalled') htimer'
  obtain rfl := honly call' hcalled' (hrecords'.token.symm.trans htoken)
  have hnumber : ping.number = other.number := htimer.symm.trans htimer'
  rw [hnumber, hfound'] at hfound
  exact (Option.some.inj hfound).symm

/-- **A target has at most 65536 calls**, and the pings that tasks refuse are pending as well. -/
theorem length_pending_le (hb : Books begun service e) (hs : Sound {} e) :
    e.pending.length ≤ service.targets.size * 65536 + e.refusals := by
  have hpings : e.pings.Nodup := .of_map _ hb.nodup
  have hpending : e.pending.Nodup := hpings.filter _
  have hsplit : e.pending.length = e.pending.countP (fun ping => e.refused ping.number = 0)
      + e.pending.countP (fun ping => ¬ e.refused ping.number = 0) := by
    simpa using List.length_eq_countP_add_countP fun ping : Ping => e.refused ping.number = 0
  have hentered : e.pending.countP (fun ping => e.refused ping.number = 0)
      ≤ service.targets.size * 65536 := by
    have hnodup := (hpending.filter _).map_on (hb.inj_on_entered hs)
    have hsub : (e.pending.filter fun ping => e.refused ping.number = 0).map
        (fun ping => (ping.pinger, ping.token.sequence.toNat))
          ⊆ (service.targets.toList.map Target.pinger) ×ˢ List.range 65536 := by
      intro place hplace
      obtain ⟨ping, hmem, rfl⟩ := List.mem_map.1 hplace
      have hasked := (Engine.mem_pending.1 (List.mem_filter.1 hmem).1).1
      obtain ⟨index, target, -, -, htarget, howner, -, -⟩ := (hb.owned ping hasked).owner
      have htarget : target ∈ service.targets.toList := by
        rw [← Array.mem_def]
        exact Array.mem_of_getElem? htarget
      refine List.pair_mem_product.2 ⟨?_, List.mem_range.2 ping.token.sequence.toNat_lt⟩
      rw [howner]
      exact List.mem_map_of_mem htarget
    have hle := (List.subperm_of_subset hnodup hsub).length_le
    rwa [List.length_map, List.length_product, List.length_map, List.length_range,
      ← List.countP_eq_length_filter, Array.length_toList] at hle
  have hrefused : e.pending.countP (fun ping => ¬ e.refused ping.number = 0) ≤ e.refusals := by
    have hnodup : ((e.pending.filter fun ping => ¬ e.refused ping.number = 0).map
        Ping.number).Nodup :=
      hb.nodup.sublist ((List.filter_sublist.trans List.filter_sublist).map _)
    have hsub : (e.pending.filter fun ping => ¬ e.refused ping.number = 0).map Ping.number
        ⊆ e.ready.filterMap Task.refusal? := by
      intro number hnumber
      obtain ⟨ping, hmem, rfl⟩ := List.mem_map.1 hnumber
      have hrefused : e.refused ping.number ≠ 0 := of_decide_eq_true (List.mem_filter.1 hmem).2
      obtain ⟨task, htask, hrefusal⟩ := List.countP_pos_iff.1 (Nat.pos_of_ne_zero hrefused)
      exact List.mem_filterMap.2 ⟨task, htask, of_decide_eq_true hrefusal⟩
    have hle := (List.subperm_of_subset hnodup hsub).length_le
    rwa [List.length_map, List.length_filterMap_eq_countP, ← List.countP_eq_length_filter] at hle
  omega

/-- **The service counts exactly the pings that are pending**, as numbers that nowhere wrap. -/
theorem outstanding_eq (hb : Books begun service e) (hs : Sound {} e)
    (hmany : service.targets.size ≤ 32768) (hfew : e.refusals ≤ service.targets.size) :
    service.outstanding.toNat = e.pending.length := by
  have hout := hb.outstanding
  rw [hb.length_pings hs, UInt32.ofNat_add] at hout
  have hpending : service.outstanding = UInt32.ofNat e.pending.length := by grind
  have hle := hb.length_pending_le hs
  rw [hpending]
  exact UInt32.toNat_ofNat_of_lt' (by rw [UInt32.size]; omega)

end Books

end IcmpEcho
