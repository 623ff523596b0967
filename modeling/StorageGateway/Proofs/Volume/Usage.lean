import StorageGateway.Proofs.Json.Records
import StorageGateway.Volume.Adapters

/-!
# What is in use of a volume

The host tells how large a volume is and how much of it is free, and what is in use is the
difference, in 64 bits. Where arithmetic is checked the service breaks down over a difference that
takes more than that; where it is not, the difference wraps around. As long as the service does not
break down the two make no difference, and it never does over sizes that are not negative.
-/

namespace StorageGateway.Volume

open Host

namespace SizeRow

variable {row : SizeRow} {told : Usage}

/-- A difference in 64 bits is the exact one just where 64 bits hold that. -/
theorem toInt_used_eq_iff :
    row.usage.used.toInt = row.size.toInt - row.remaining.toInt ↔
      (Text.Width.signed 64).holds (row.size.toInt - row.remaining.toInt) = true := by
  rw [Json.Reader.holds_i64_iff]
  constructor
  · intro hexact
    have hleast := row.usage.used.le_toInt
    have hgreatest := row.usage.used.toInt_lt
    omega
  · rintro ⟨hleast, hgreatest⟩
    show (row.size - row.remaining).toInt = _
    rw [Int64.toInt_sub]
    exact Int.bmod_eq_of_le (by omega) (by omega)

/-- Checked arithmetic tells what unchecked arithmetic does, and that is the exact difference. -/
theorem usage?_eq_some_iff :
    row.usage? = some told ↔
      told = row.usage ∧ told.used.toInt = row.size.toInt - row.remaining.toInt := by
  unfold usage?
  constructor
  · intro h
    split at h
    · rename_i hholds
      obtain rfl := Option.some.inj h
      exact ⟨rfl, toInt_used_eq_iff.mpr hholds⟩
    · cases h
  · rintro ⟨rfl, hexact⟩
    rw [if_pos (toInt_used_eq_iff.mp hexact)]

/-- The difference of sizes that are not negative is never too great. -/
theorem isSome_usage?_of_nonneg (hsize : 0 ≤ row.size.toInt)
    (hremaining : 0 ≤ row.remaining.toInt) : row.usage?.isSome = true := by
  have hleast := row.remaining.toInt_lt
  have hgreatest := row.size.toInt_lt
  have hholds : (Text.Width.signed 64).holds (row.size.toInt - row.remaining.toInt) = true :=
    Json.Reader.holds_i64_iff.mpr ⟨by omega, by omega⟩
  rw [usage?_eq_some_iff.mpr ⟨rfl, toInt_used_eq_iff.mpr hholds⟩]
  rfl

-- A negative size may be further than that from what is free.
example : usage? ⟨-2, 9223372036854775807⟩ = none := by decide

end SizeRow

/-- What is told of a volume over which the service does not break down is what the host says, and
the exact difference. -/
theorem usage_exact_of_not_breaksDown {volume output : String} {machine : Machine}
    {command : Command Usage} {told : Usage} (hplan : usage volume = .ok command)
    (houtput : (machine.shell.run command.invocation).1 = .ok output)
    (hmeaning : command.meaning output = .ok told)
    (hsound : usageBreaksDown volume machine = false) :
    ∃ row, Output.value SizeRow.reader "Get-Volume" output = .ok row ∧ told.total = row.size ∧
      told.used.toInt = row.size.toInt - row.remaining.toInt := by
  have hmeans : command.meaning = fun output =>
      if Output.isEmpty output then .error (missing volume)
      else (Output.value SizeRow.reader "Get-Volume" output).map SizeRow.usage := by
    unfold usage Plan.checked at hplan
    split at hplan
    · rw [← Except.ok.inj hplan]
    · cases hplan
  rw [hmeans] at hmeaning
  dsimp only at hmeaning
  split at hmeaning
  · cases hmeaning
  · cases hvalue : Output.value SizeRow.reader "Get-Volume" output with
    | error fault =>
      rw [hvalue] at hmeaning
      cases hmeaning
    | ok row =>
      rw [hvalue] at hmeaning
      obtain rfl : row.usage = told := Except.ok.inj hmeaning
      have hfits : row.usage?.isNone = false := by
        simpa [usageBreaksDown, hplan, houtput, Except.bind, hvalue] using hsound
      cases husage : row.usage? with
      | none =>
        rw [husage] at hfits
        cases hfits
      | some checked =>
        obtain ⟨rfl, hexact⟩ := SizeRow.usage?_eq_some_iff.mp husage
        exact ⟨row, rfl, rfl, hexact⟩

end StorageGateway.Volume
