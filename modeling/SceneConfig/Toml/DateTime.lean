/- TOML dates and times: their form, and that the numbers name a day and a time of day. -/
import SceneConfig.Toml.Number

namespace SceneConfig.Toml.Scanner

def fixedDigits : (count : Nat) → Scanner (List Char)
  | 0 => return []
  | count + 1 => do return (← one Char.isDigit) :: (← fixedDigits count)

def twoDigits (least most : Nat) : Scanner Nat := do
  let n := ofDigits 10 (← fixedDigits 2)
  if least ≤ n ∧ n ≤ most then return n else refuse

def isLeapYear (year : Nat) : Bool :=
  year % 4 = 0 && (year % 100 ≠ 0 || year % 400 = 0)

def daysIn (year month : Nat) : Nat :=
  if month = 2 then (if isLeapYear year then 29 else 28)
  else if month = 4 ∨ month = 6 ∨ month = 9 ∨ month = 11 then 30
  else 31

def date : Scanner Unit := do
  let year := ofDigits 10 (← fixedDigits 4)
  exactly ['-']
  let month ← twoDigits 1 12
  exactly ['-']
  let _ ← twoDigits 1 (daysIn year month)

/-- A time of day; the last minute may have a leap second. -/
def time : Scanner Unit := do
  let _ ← twoDigits 0 23
  exactly [':']
  let _ ← twoDigits 0 59
  exactly [':']
  let _ ← twoDigits 0 60
  let _ ← perhaps (do exactly ['.']; let _ ← one Char.isDigit; let _ ← run Char.isDigit)

def offset : Scanner Unit :=
  (do let _ ← one fun c => c = 'Z' || c = 'z') <|>
  (do
    let _ ← one fun c => c = '+' || c = '-'
    let _ ← twoDigits 0 23
    exactly [':']
    let _ ← twoDigits 0 59)

/-- A date, with a time behind it or not, or a time alone. -/
def dateTime : Scanner Unit :=
  (do
    date
    let _ ← perhaps (do
      let _ ← one fun c => c = 'T' || c = 't' || c = ' '
      time
      let _ ← perhaps offset)) <|>
  time

end SceneConfig.Toml.Scanner
