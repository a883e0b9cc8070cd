import Mathlib.Data.Set.Insert

/-!
A ledger of resources read off a log of events. Each event may acquire a resource, may
release one, and touches some.

`Disciplined` says of a log that every resource is acquired once and that only what is
owned is touched or released. `Balanced t S` adds which resources are owned at the end of
the log; its three rules are those of the three kinds of events. What is expected of a
program follows from the discipline alone: nothing is released twice, and nothing is touched
after its release.

`Numbered` adds that each resource is acquired under the next number, which is why it is new.

`Counted t n` is the same for references that have no name: `n` more have been taken than
dropped, and never were more dropped than taken.
-/

namespace OneplusHal

structure Ledger (ε α : Type*) where
  acquires : ε → Option α
  releases : ε → Option α
  touches : ε → List α

namespace Ledger

variable {ε α : Type*} (L : Ledger ε α)

/-- Acquired by some event of the log. -/
def Acquired (t : List ε) (a : α) : Prop := ∃ e ∈ t, L.acquires e = some a

/-- Released by some event of the log. -/
def Released (t : List ε) (a : α) : Prop := ∃ e ∈ t, L.releases e = some a

/-- Acquired and not released. -/
def Owned (t : List ε) (a : α) : Prop := L.Acquired t a ∧ ¬L.Released t a

/-- The log after which an event is admissible. -/
structure Admits (t : List ε) (e : ε) : Prop where
  fresh : ∀ a, L.acquires e = some a → ¬L.Acquired t a
  touched : ∀ a ∈ L.touches e, L.Owned t a
  released : ∀ a, L.releases e = some a → L.Owned t a

inductive Disciplined : List ε → Prop
  | nil : Disciplined []
  | snoc {t : List ε} {e : ε} (h : Disciplined t) (he : L.Admits t e) : Disciplined (t ++ [e])

variable {L} {t : List ε} {e : ε} {a : α}

@[simp] theorem not_acquired_nil : ¬L.Acquired [] a := by
  rintro ⟨e, he, -⟩
  exact List.not_mem_nil he

@[simp] theorem not_released_nil : ¬L.Released [] a := by
  rintro ⟨e, he, -⟩
  exact List.not_mem_nil he

theorem acquired_append_singleton :
    L.Acquired (t ++ [e]) a ↔ L.Acquired t a ∨ L.acquires e = some a := by
  simp [Acquired, or_and_right, exists_or]

theorem released_append_singleton :
    L.Released (t ++ [e]) a ↔ L.Released t a ∨ L.releases e = some a := by
  simp [Released, or_and_right, exists_or]

/-- What holds of everything acquired, after one more event. -/
theorem forall_acquired_append {P Q : α → Prop} (h : ∀ a, L.Acquired t a → P a)
    (hPQ : ∀ a, P a → Q a) (he : ∀ a, L.acquires e = some a → Q a) :
    ∀ a, L.Acquired (t ++ [e]) a → Q a := by
  intro a ha
  obtain ha | ha := acquired_append_singleton.mp ha
  · exact hPQ a (h a ha)
  · exact he a ha

/-- Every release is one of a resource acquired before. -/
theorem Disciplined.acquired_of_released (h : L.Disciplined t) (hr : L.Released t a) :
    L.Acquired t a := by
  induction h with
  | nil => exact absurd hr not_released_nil
  | snoc h he ih =>
      rw [acquired_append_singleton]
      obtain hr | hr := released_append_singleton.mp hr
      · exact .inl (ih hr)
      · exact .inl (he.released a hr).1

theorem Owned.of_append (h : L.Owned (t ++ [e]) a) (ha : L.acquires e ≠ some a) : L.Owned t a :=
  ⟨(acquired_append_singleton.mp h.1).resolve_right ha,
    fun hr => h.2 (released_append_singleton.mpr (.inl hr))⟩

/-! ### What the discipline gives -/

/-- Nothing is released twice. -/
theorem Disciplined.countP_releases_le (h : L.Disciplined t) [DecidableEq α] (a : α) :
    t.countP (fun e => L.releases e = some a) ≤ 1 := by
  induction h with
  | nil => simp
  | @snoc t e h he ih =>
      rw [List.countP_append, List.countP_singleton]
      by_cases hr : L.releases e = some a
      · -- The resource was owned, so no earlier event released it.
        have hnone : t.countP (fun e => L.releases e = some a) = 0 := by
          refine List.countP_eq_zero.mpr fun e' he' hr' => ?_
          exact (he.released a hr).2 ⟨e', he', of_decide_eq_true hr'⟩
        rw [hnone]
        split <;> omega
      · rw [if_neg (by simpa using hr)]
        omega

/-- What was acquired is owned or has been released once. -/
theorem Disciplined.countP_releases_eq (h : L.Disciplined t) [DecidableEq α]
    (ha : L.Acquired t a) (hn : ¬L.Owned t a) :
    t.countP (fun e => L.releases e = some a) = 1 := by
  have hr : L.Released t a := by
    by_contra hr
    exact hn ⟨ha, hr⟩
  obtain ⟨e, he, hr⟩ := hr
  have hpos : 0 < t.countP (fun e => L.releases e = some a) :=
    List.countP_pos_iff.mpr ⟨e, he, decide_eq_true hr⟩
  have hle := h.countP_releases_le a
  omega

theorem countP_releases_of_owned [DecidableEq α] (ho : L.Owned t a) :
    t.countP (fun e => L.releases e = some a) = 0 :=
  List.countP_eq_zero.mpr fun e he hr => ho.2 ⟨e, he, of_decide_eq_true hr⟩

/-- Nothing is touched after its release. -/
theorem Disciplined.not_touched_after (h : L.Disciplined t) {xs ys : List ε}
    (hsplit : t = xs ++ e :: ys) (hr : L.releases e = some a) : ∀ e' ∈ ys, a ∉ L.touches e' := by
  induction h generalizing ys with
  | nil => simp at hsplit
  | @snoc t e₁ h he ih =>
      intro e' he' ha
      obtain rfl | ⟨ys', e₂, rfl⟩ := List.eq_nil_or_concat ys
      · exact List.not_mem_nil he'
      rw [List.concat_eq_append] at hsplit he'
      obtain ⟨ht, heq⟩ := List.append_inj' (hsplit.trans
        (by simp : xs ++ e :: (ys' ++ [e₂]) = (xs ++ e :: ys') ++ [e₂])) rfl
      cases heq
      obtain he' | he' := List.mem_append.mp he'
      · exact ih ht e' he' ha
      · cases List.mem_singleton.mp he'
        refine (he.touched a ha).2 ⟨e, ?_, hr⟩
        rw [ht]
        exact List.mem_append_right _ List.mem_cons_self

/-- Of the resources of any kind, as many more have been acquired than released as are owned. -/
theorem Disciplined.countP_releases_add_length_le (h : L.Disciplined t) (p : α → Bool)
    {as : List α} (hnodup : as.Nodup) (has : ∀ a ∈ as, L.Owned t a ∧ p a = true) :
    t.countP (fun e => (L.releases e).any p) + as.length ≤
      t.countP (fun e => (L.acquires e).any p) := by
  classical
  induction h generalizing as with
  | nil =>
      obtain rfl : as = [] := List.eq_nil_iff_forall_not_mem.mpr fun a ha =>
        not_acquired_nil (has a ha).1.1
      simp
  | @snoc t e h he ih =>
      -- What was owned before the event: all but what it acquires, and what it releases.
      obtain ⟨bs, hbs, hmem, hlength⟩ : ∃ bs : List α, bs.Nodup ∧
          (∀ b ∈ bs, b ∈ as ∧ L.acquires e ≠ some b) ∧
          as.length ≤ bs.length + ((L.acquires e).any p).toNat := by
        cases hacq : L.acquires e with
        | none => exact ⟨as, hnodup, fun b hb => ⟨hb, nofun⟩, by simp⟩
        | some c =>
            refine ⟨as.erase c, hnodup.erase c, fun b hb => ?_, ?_⟩
            · have hb := hnodup.mem_erase_iff.mp hb
              exact ⟨hb.2, fun heq => hb.1 (Option.some.inj heq).symm⟩
            · by_cases hc : c ∈ as
              · have hpc := (has c hc).2
                have hlen := List.length_erase_of_mem hc
                have hpos := List.length_pos_of_mem hc
                simp only [Option.any_some, hpc, Bool.toNat_true]
                omega
              · rw [List.erase_of_not_mem hc]
                exact Nat.le_add_right _ _
      have howned (b : α) (hb : b ∈ bs) : L.Owned t b ∧ p b = true :=
        ⟨(has b (hmem b hb).1).1.of_append (hmem b hb).2, (has b (hmem b hb).1).2⟩
      obtain ⟨ds, hds, hdmem, hdlength⟩ : ∃ ds : List α, ds.Nodup ∧
          (∀ d ∈ ds, L.Owned t d ∧ p d = true) ∧
          ds.length = bs.length + ((L.releases e).any p).toNat := by
        cases hrel : L.releases e with
        | none => exact ⟨bs, hbs, howned, by simp⟩
        | some c =>
            cases hp : p c with
            | false => exact ⟨bs, hbs, howned, by simp [hp]⟩
            | true =>
                refine ⟨c :: bs, List.nodup_cons.mpr ⟨fun hc => ?_, hbs⟩, ?_, by simp [hp]⟩
                · exact (has c (hmem c hc).1).1.2 (released_append_singleton.mpr (.inr hrel))
                · exact List.forall_mem_cons.mpr ⟨⟨he.released c hrel, hp⟩, howned⟩
      have hle := ih hds hdmem
      simp only [List.countP_append, List.countP_singleton]
      cases hr : (L.releases e).any p <;> cases ha : (L.acquires e).any p <;>
        simp only [hr, ha, Bool.toNat_true, Bool.toNat_false, if_true, Bool.false_eq_true,
          if_false] at hdlength hlength ⊢ <;> omega

/-- Where as many are released as acquired, nothing is owned. -/
theorem Disciplined.not_owned_of_countP_eq (h : L.Disciplined t) {p : α → Bool} (ha : p a = true)
    (hcount : t.countP (fun e => (L.acquires e).any p) =
      t.countP (fun e => (L.releases e).any p)) : ¬L.Owned t a := by
  intro howned
  have hle := h.countP_releases_add_length_le p (List.pairwise_singleton _ a)
    (List.forall_mem_singleton.mpr ⟨howned, ha⟩)
  rw [List.length_singleton] at hle
  omega

/-! ### The owned resources -/

variable (L)

/-- The log is disciplined and leaves the resources of `S` owned. -/
structure Balanced (t : List ε) (S : Set α) : Prop where
  disciplined : L.Disciplined t
  owned : ∀ a, L.Owned t a ↔ a ∈ S

variable {L} {S : Set α}

/-- An event that only touches. -/
theorem Balanced.touch (h : L.Balanced t S) (hacq : L.acquires e = none)
    (hrel : L.releases e = none) (ht : ∀ a ∈ L.touches e, a ∈ S) : L.Balanced (t ++ [e]) S where
  disciplined := .snoc h.disciplined
    { fresh := fun a ha => by rw [hacq] at ha; cases ha
      touched := fun a ha => (h.owned a).mpr (ht a ha)
      released := fun a ha => by rw [hrel] at ha; cases ha }
  owned := fun a => by
    rw [← h.owned a, Owned, Owned, acquired_append_singleton, released_append_singleton, hacq,
      hrel]
    simp

/-- An event that acquires. -/
theorem Balanced.acquire (h : L.Balanced t S) (hacq : L.acquires e = some a)
    (hrel : L.releases e = none) (ht : ∀ a ∈ L.touches e, a ∈ S) (hfresh : ¬L.Acquired t a) :
    L.Balanced (t ++ [e]) (insert a S) where
  disciplined := .snoc h.disciplined
    { fresh := fun b hb => by rw [hacq] at hb; cases hb; exact hfresh
      touched := fun b hb => (h.owned b).mpr (ht b hb)
      released := fun b hb => by rw [hrel] at hb; cases hb }
  owned := fun b => by
    have hunreleased : ¬L.Released t a := fun hr =>
      hfresh (h.disciplined.acquired_of_released hr)
    rw [Set.mem_insert_iff, ← h.owned b, Owned, Owned, acquired_append_singleton,
      released_append_singleton, hacq, hrel]
    constructor
    · rintro ⟨hb | hb, hr⟩
      · exact .inr ⟨hb, fun hr' => hr (.inl hr')⟩
      · exact .inl (Option.some.inj hb).symm
    · rintro (rfl | ⟨hb, hr⟩)
      · exact ⟨.inr rfl, fun hr => hr.elim hunreleased (by simp)⟩
      · exact ⟨.inl hb, fun hr' => hr'.elim hr (by simp)⟩

/-- An event that releases. -/
theorem Balanced.release (h : L.Balanced t S) (hacq : L.acquires e = none)
    (hrel : L.releases e = some a) (ht : ∀ a ∈ L.touches e, a ∈ S) (ha : a ∈ S) :
    L.Balanced (t ++ [e]) (S \ {a}) where
  disciplined := .snoc h.disciplined
    { fresh := fun b hb => by rw [hacq] at hb; cases hb
      touched := fun b hb => (h.owned b).mpr (ht b hb)
      released := fun b hb => by rw [hrel] at hb; cases hb; exact (h.owned _).mpr ha }
  owned := fun b => by
    rw [Set.mem_sdiff, Set.mem_singleton_iff, ← h.owned b, Owned, Owned,
      acquired_append_singleton, released_append_singleton, hacq, hrel]
    constructor
    · rintro ⟨hb | hb, hr⟩
      · exact ⟨⟨hb, fun hr' => hr (.inl hr')⟩, fun hba => hr (.inr (by rw [hba]))⟩
      · cases hb
    · rintro ⟨⟨hb, hr⟩, hne⟩
      refine ⟨.inl hb, ?_⟩
      rintro (hr' | hba)
      · exact hr hr'
      · exact hne (Option.some.inj hba).symm

/-! ### Resources numbered as they are acquired -/

/-- The log is balanced, and the numbers from `next` on are still to be given out. -/
structure Numbered (L : Ledger ε α) (number : α → ℕ) (next : ℕ) (t : List ε) (S : Set α) :
    Prop where
  balanced : L.Balanced t S
  lt_next : ∀ a, L.Acquired t a → number a < next

variable {number : α → ℕ} {next : ℕ}

theorem Numbered.lt_of_mem (h : L.Numbered number next t S) (ha : a ∈ S) : number a < next :=
  h.lt_next a ((h.balanced.owned a).mpr ha).1

theorem Numbered.notMem (h : L.Numbered number next t S) (ha : next ≤ number a) : a ∉ S :=
  fun hmem => Nat.not_lt.mpr ha (h.lt_of_mem hmem)

theorem Numbered.touch (h : L.Numbered number next t S) (hacq : L.acquires e = none)
    (hrel : L.releases e = none) (ht : ∀ a ∈ L.touches e, a ∈ S) :
    L.Numbered number next (t ++ [e]) S where
  balanced := h.balanced.touch hacq hrel ht
  lt_next := forall_acquired_append h.lt_next (fun _ => id) fun b hb => by
    rw [hacq] at hb
    cases hb

theorem Numbered.acquire (h : L.Numbered number next t S) (hacq : L.acquires e = some a)
    (hrel : L.releases e = none) (ht : ∀ a ∈ L.touches e, a ∈ S) (hnumber : number a = next) :
    L.Numbered number (next + 1) (t ++ [e]) (insert a S) where
  balanced := h.balanced.acquire hacq hrel ht fun ha => by
    have hlt := h.lt_next a ha
    omega
  lt_next := forall_acquired_append h.lt_next (fun _ => Nat.lt_succ_of_lt) fun b hb => by
    cases hacq.symm.trans hb
    omega

theorem Numbered.release (h : L.Numbered number next t S) (hacq : L.acquires e = none)
    (hrel : L.releases e = some a) (ht : ∀ a ∈ L.touches e, a ∈ S) (ha : a ∈ S) :
    L.Numbered number next (t ++ [e]) (S \ {a}) where
  balanced := h.balanced.release hacq hrel ht ha
  lt_next := forall_acquired_append h.lt_next (fun _ => id) fun b hb => by
    rw [hacq] at hb
    cases hb

end Ledger

/-! ### Events and the log before them -/

/-- Every event of the log is in order after the events before it. -/
def EachAfter {ε : Type*} (P : List ε → ε → Prop) (t : List ε) : Prop :=
  ∀ before e after, t = before ++ e :: after → P before e

section EachAfter

variable {ε : Type*} {P : List ε → ε → Prop} {t : List ε} {e : ε}

theorem eachAfter_nil : EachAfter P [] := by
  intro before e after hsplit
  simp at hsplit

theorem EachAfter.snoc (h : EachAfter P t) (he : P t e) : EachAfter P (t ++ [e]) := by
  intro before e' after hsplit
  obtain rfl | ⟨after', e'', rfl⟩ := List.eq_nil_or_concat after
  · obtain ⟨rfl, heq⟩ := List.append_inj' hsplit rfl
    cases heq
    exact he
  · rw [List.concat_eq_append, ← List.cons_append, ← List.append_assoc] at hsplit
    exact h before e' after' (List.append_inj' hsplit rfl).1

end EachAfter

/-- Each event was admissible when it came. -/
theorem Ledger.Disciplined.eachAfter {ε α : Type*} {L : Ledger ε α} {t : List ε}
    (h : L.Disciplined t) : EachAfter L.Admits t := by
  induction h with
  | nil => exact eachAfter_nil
  | snoc _ he ih => exact ih.snoc he

/-! ### References without a name -/

/-- `n` references are held after the log, and none was dropped that was not held. -/
inductive Counted {ε : Type*} (takes drops : ε → Bool) : List ε → ℕ → Prop
  | nil : Counted takes drops [] 0
  | quiet {t : List ε} {e : ε} {n : ℕ} (h : Counted takes drops t n) (ht : takes e = false)
      (hd : drops e = false) : Counted takes drops (t ++ [e]) n
  | take {t : List ε} {e : ε} {n : ℕ} (h : Counted takes drops t n) (ht : takes e = true)
      (hd : drops e = false) : Counted takes drops (t ++ [e]) (n + 1)
  | drop {t : List ε} {e : ε} {n : ℕ} (h : Counted takes drops t (n + 1)) (ht : takes e = false)
      (hd : drops e = true) : Counted takes drops (t ++ [e]) n

namespace Counted

variable {ε : Type*} {takes drops : ε → Bool} {t : List ε} {n : ℕ}

theorem countP_eq (h : Counted takes drops t n) : t.countP takes = t.countP drops + n := by
  induction h with
  | nil => rfl
  | quiet _ ht hd ih => simp [ih, ht, hd]
  | take _ ht hd ih =>
      simp [ih, ht, hd]
      omega
  | drop _ ht hd ih =>
      simp [ih, ht, hd]
      omega

/-- At no moment were more references dropped than taken. -/
theorem countP_le_of_prefix (h : Counted takes drops t n) {xs : List ε} (hxs : xs <+: t) :
    xs.countP drops ≤ xs.countP takes := by
  have hlast {t : List ε} {e : ε} {n : ℕ} (h : Counted takes drops (t ++ [e]) n)
      (ih : xs <+: t → xs.countP drops ≤ xs.countP takes) (hxs : xs <+: t ++ [e]) :
      xs.countP drops ≤ xs.countP takes := by
    obtain rfl | hxs := List.prefix_concat_iff.mp hxs
    · have heq := h.countP_eq
      omega
    · exact ih hxs
  induction h with
  | nil => simp [List.prefix_nil.mp hxs]
  | quiet h ht hd ih => exact hlast (.quiet h ht hd) ih hxs
  | take h ht hd ih => exact hlast (.take h ht hd) ih hxs
  | drop h ht hd ih => exact hlast (.drop h ht hd) ih hxs

end Counted

end OneplusHal
