import Caixinha.Effects.Posting

/-! What some rows of the ledger left on CAIXINHA, net of the rows that reversed them. -/
namespace Caixinha.Effects

open Caixinha.Library Caixinha.Library.Table Fallible Caixinha.Model

/-- A row is counted when it is one of the rows asked for or reverses one of them. -/
def counted (asked : LedgerEntry → Bool) (entries : List LedgerEntry) (e : LedgerEntry) : Bool :=
  asked e || entries.any (fun o => asked o && decide (e.reversalOfId = some o.id))

/-- The balance of CAIXINHA by the rows asked for and their reversals. -/
def netOf (asked : LedgerEntry → Bool) (entries : List LedgerEntry) : Int :=
  accountBalance "CAIXINHA" (entries.filter (counted asked entries))

variable {asked : LedgerEntry → Bool} {entries new : List LedgerEntry} {e o : LedgerEntry}

theorem accountBalance_append (account : String) (xs ys : List LedgerEntry) :
    accountBalance account (xs ++ ys) = accountBalance account xs + accountBalance account ys := by
  rw [accountBalance, List.filter_append, List.map_append, List.sum_append]
  rfl

theorem accountBalance_singleton (account : String) (e : LedgerEntry) :
    accountBalance account [e] = if e.account = account then e.signed else 0 := by
  by_cases h : e.account = account <;> simp [accountBalance, h]

/-- One more row changes the net by what it moves, if it is counted. -/
theorem netOf_append (hs : LedgerSound entries) (hp : Posting entries e) :
    netOf asked (entries ++ [e]) = netOf asked entries +
      if counted asked entries e then (if e.account = "CAIXINHA" then e.signed else 0) else 0 := by
  have hself : e.reversalOfId ≠ some e.id := by
    intro hrev
    obtain ⟨x, hx, hid, -⟩ := hp.reverses _ hrev
    have := LedgerSound.id_lt hx
    have := hp.id_eq
    omega
  have hold : ∀ x ∈ entries, counted asked (entries ++ [e]) x = counted asked entries x := by
    intro x hx
    have hne : x.reversalOfId ≠ some e.id := by
      rw [hp.id_eq]
      exact hs.not_reverses_next hx
    simp [counted, hne]
  have hnew : counted asked (entries ++ [e]) e = counted asked entries e := by
    simp [counted, hself]
  rw [netOf, List.filter_append, List.filter_congr hold, accountBalance_append, ← netOf]
  congr 1
  by_cases h : counted asked entries e
  · rw [List.filter_cons_of_pos (by rw [hnew]; exact h), List.filter_nil, if_pos h,
      accountBalance_singleton]
  · rw [List.filter_cons_of_neg (by rw [hnew]; exact h), List.filter_nil, if_neg h]
    rfl

/-- A row asked for adds what it moves. -/
theorem netOf_append_asked (hs : LedgerSound entries) (hp : Posting entries e) (he : asked e)
    (haccount : e.account = "CAIXINHA") :
    netOf asked (entries ++ [e]) = netOf asked entries + e.signed := by
  have hcounted : counted asked entries e := by simp [counted, he]
  rw [netOf_append hs hp, if_pos hcounted, if_pos haccount]

theorem Direction.sign_opposite (d : Direction) : d.opposite.sign = -d.sign := by
  cases d <;> rfl

theorem Compensates.signed (h : Compensates o e) : e.signed = -o.signed := by
  rw [LedgerEntry.signed, LedgerEntry.signed, h.direction, h.amount, Direction.sign_opposite]
  ring

/-- The compensation of a row asked for takes its move back. -/
theorem netOf_append_compensation (hs : LedgerSound entries) (hp : Posting entries e)
    (ho : o ∈ entries) (hasked : asked o) (haccount : o.account = "CAIXINHA")
    (hc : Compensates o e) : netOf asked (entries ++ [e]) = netOf asked entries - o.signed := by
  have hcounted : counted asked entries e := by
    simp only [counted, Bool.or_eq_true, List.any_eq_true, Bool.and_eq_true, decide_eq_true_eq]
    exact .inr ⟨o, ho, hasked, hc.reverses⟩
  rw [netOf_append hs hp, if_pos hcounted, if_pos (hc.account.trans haccount), hc.signed]
  ring

/-- Rows that are not asked for and reverse none that is leave the net as it was. -/
theorem netOf_append_other (hs : LedgerSound entries) (hp : Postings entries new)
    (hnot : ∀ e ∈ new, asked e = false)
    (hrev : ∀ e ∈ new, ∀ o ∈ entries, e.reversalOfId = some o.id → asked o = false) :
    netOf asked (entries ++ new) = netOf asked entries := by
  induction hp with
  | nil => rw [List.append_nil]
  | @cons entries e new head tail ih =>
    have he : asked e = false := hnot e (List.mem_cons_self ..)
    have hcounted : counted asked entries e = false := by
      simp only [counted, he, Bool.false_or, List.any_eq_false, Bool.and_eq_true, decide_eq_true_eq,
        not_and]
      intro o ho hasked hid
      rw [hrev e (List.mem_cons_self ..) o ho hid] at hasked
      cases hasked
    have hfirst : netOf asked (entries ++ [e]) = netOf asked entries := by
      rw [netOf_append hs head, hcounted]
      simp
    have hrest := ih (hs.append head) (fun x hx => hnot x (List.mem_cons_of_mem _ hx)) (by
      intro x hx o ho hid
      rcases List.mem_append.mp ho with ho | ho
      · exact hrev x (List.mem_cons_of_mem _ hx) o ho hid
      · rw [List.mem_singleton.mp ho]
        exact he)
    rw [← hfirst, ← hrest, List.append_assoc, List.singleton_append]

end Caixinha.Effects
