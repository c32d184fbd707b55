import NetReconcile.Text.Blank
import NetReconcile.Text.Digits

/-!
# Reading back what is written in digits

A number that is written in a base of at most sixteen is read back from its digits. Digits are read
from the left while numbers are written from the right, so the reader is first shown to go through
the parts of a text one after the other.

## Main statements

* `digits?_toDigits`: a number is read back.
* `head?_toDigits`: the digits of a number start with a zero only if it is zero.
* `digits?_eq_none_of_mem`: what contains anything but digits is no number.
-/

namespace NetReconcile.Text

/-! ### Single digits -/

theorem hexDigit?_digitChar {d : Nat} (hd : d < 16) : hexDigit? d.digitChar = some d := by
  have hall : ∀ d : Fin 16, hexDigit? d.val.digitChar = some d.val := by decide
  exact hall ⟨d, hd⟩

/-- A digit is read back in every base that has it. -/
theorem digit?_digitChar {base d : Nat} (hbase : base ≤ 16) (hd : d < base) :
    digit? base d.digitChar = some d := by
  rw [digit?, hexDigit?_digitChar (Nat.lt_of_lt_of_le hd hbase)]
  simpa [Option.filter] using hd

section

variable {base n : Nat} {c : Char} {cs ds : List Char}

/-- A number is written in digits of its base. -/
theorem exists_digitChar_of_mem_toDigits (hbase : 1 < base) (hc : c ∈ Nat.toDigits base n) :
    ∃ d < base, c = d.digitChar := by
  induction n using Nat.strongRecOn with
  | ind n ih =>
    rcases Nat.lt_or_ge n base with hlt | hle
    · rw [Nat.toDigits_of_lt_base hlt, List.mem_singleton] at hc
      exact ⟨n, hlt, hc⟩
    · rw [Nat.toDigits_of_base_le hbase hle, List.mem_append, List.mem_singleton] at hc
      rcases hc with hc | hc
      · exact ih (n / base) (Nat.div_lt_self (by omega) hbase) hc
      · exact ⟨n % base, Nat.mod_lt n (by omega), hc⟩

/-- Anything but a digit has no part in a number. -/
theorem not_mem_toDigits (hbase : 1 < base) (hbase' : base ≤ 16) (hnone : hexDigit? c = none) :
    c ∉ Nat.toDigits base n := by
  intro hc
  obtain ⟨d, hd, rfl⟩ := exists_digitChar_of_mem_toDigits hbase hc
  rw [hexDigit?_digitChar (Nat.lt_of_lt_of_le hd hbase')] at hnone
  cases hnone

theorem isBlank_of_mem_toDigits (hbase : 1 < base) (hbase' : base ≤ 16)
    (hc : c ∈ Nat.toDigits base n) : isBlank c = false := by
  have hall : ∀ d : Fin 16, isBlank d.val.digitChar = false := by decide
  obtain ⟨d, hd, rfl⟩ := exists_digitChar_of_mem_toDigits hbase hc
  exact hall ⟨d, Nat.lt_of_lt_of_le hd hbase'⟩

/-! ### Reading digits -/

/-- Digits are read in two parts, the second from where the first one has come to. -/
theorem digitsFrom?_append (m : Nat) :
    digitsFrom? base m (cs ++ ds) = (digitsFrom? base m cs).bind (digitsFrom? base · ds) := by
  induction cs generalizing m with
  | nil => rfl
  | cons c cs ih =>
    rw [List.cons_append, digitsFrom?, digitsFrom?, Option.bind_assoc]
    congr 1
    funext d
    exact ih (m * base + d)

/-- A number is read back from its digits, from the left. -/
theorem digitsFrom?_toDigits (hbase : 1 < base) (hbase' : base ≤ 16) :
    digitsFrom? base 0 (Nat.toDigits base n) = some n := by
  induction n using Nat.strongRecOn with
  | ind n ih =>
    rcases Nat.lt_or_ge n base with hlt | hle
    · rw [Nat.toDigits_of_lt_base hlt, digitsFrom?, digit?_digitChar hbase' hlt, Option.bind_some,
        digitsFrom?, Nat.zero_mul, Nat.zero_add]
    · have hlast : n % base < base := Nat.mod_lt n (by omega)
      rw [Nat.toDigits_of_base_le hbase hle, digitsFrom?_append,
        ih (n / base) (Nat.div_lt_self (by omega) hbase), Option.bind_some, digitsFrom?,
        digit?_digitChar hbase' hlast, Option.bind_some, digitsFrom?, Nat.div_add_mod']

/-- A number is read back from its digits. -/
theorem digits?_toDigits (hbase : 1 < base) (hbase' : base ≤ 16) :
    digits? base (Nat.toDigits base n) = some n := by
  rw [digits?, if_neg]
  · exact digitsFrom?_toDigits hbase hbase'
  · rw [List.isEmpty_iff]
    exact Nat.toDigits_ne_nil

/-- What is no digit is not read, wherever it stands. -/
theorem digitsFrom?_eq_none_of_mem (m : Nat) (hc : c ∈ cs) (hnone : hexDigit? c = none) :
    digitsFrom? base m cs = none := by
  induction cs generalizing m with
  | nil => cases hc
  | cons b cs ih =>
    rw [digitsFrom?]
    rcases List.mem_cons.1 hc with rfl | hc
    · rw [digit?, hnone]
      rfl
    · refine Option.bind_eq_none_iff.2 fun d _ ↦ ?_
      exact ih (m * base + d) hc

/-- What contains anything but digits is no number. -/
theorem digits?_eq_none_of_mem (hc : c ∈ cs) (hnone : hexDigit? c = none) :
    digits? base cs = none := by
  rw [digits?]
  split
  · rfl
  · exact digitsFrom?_eq_none_of_mem 0 hc hnone

/-! ### Leading zeros -/

/-- Only zero is written with a leading zero. -/
theorem head?_toDigits (hbase : 1 < base) (hbase' : base ≤ 16) (hn : 0 < n) :
    (Nat.toDigits base n).head? ≠ some '0' := by
  induction n using Nat.strongRecOn with
  | ind n ih =>
    rcases Nat.lt_or_ge n base with hlt | hle
    · rw [Nat.toDigits_of_lt_base hlt, List.head?_cons]
      intro hzero
      have hvalue := hexDigit?_digitChar (Nat.lt_of_lt_of_le hlt hbase')
      rw [Option.some.inj hzero] at hvalue
      have : n = 0 := (Option.some.inj hvalue).symm
      omega
    · have hfirst := ih (n / base) (Nat.div_lt_self hn hbase) (Nat.div_pos hle (by omega))
      obtain ⟨c, cs, hcons⟩ :=
        List.exists_cons_of_ne_nil (Nat.toDigits_ne_nil : Nat.toDigits base (n / base) ≠ [])
      rw [Nat.toDigits_of_base_le hbase hle, hcons]
      rw [hcons] at hfirst
      exact hfirst

end

end NetReconcile.Text
