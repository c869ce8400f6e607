import Mathlib.Control.Monad.Basic
import Querymap.CommandLine.Generate

/-! Actions in sequence. An action that reports changes the second stream alone, so its run is told by its
lines; an action that writes fails for reasons of the file system alone. -/
namespace Querymap

namespace Action

variable {α β : Type} {action : Action α} {next : α → Action β} {console after : Console} {value : α}

theorem run_bind_ok (ran : action.run console = (.ok value, after)) :
    (action >>= next).run console = (next value).run after := by
  change ExceptT.bindCont next (action.run console).1 (action.run console).2 = _
  rw [ran]
  rfl

theorem run_bind_error {error : CommandError} (ran : action.run console = (.error error, after)) :
    (action >>= next).run console = (.error error, after) := by
  change ExceptT.bindCont next (action.run console).1 (action.run console).2 = _
  rw [ran]
  rfl

theorem run_get (console : Console) :
    (get : Action Console).run console = (.ok console, console) := rfl

theorem bind_eq_ok {result : β} (ran : (action >>= next).run console = (.ok result, after)) :
    ∃ value middle, action.run console = (.ok value, middle) ∧
      (next value).run middle = (.ok result, after) := by
  cases first : action.run console with
  | mk outcome middle =>
    cases outcome with
    | ok value => exact ⟨value, middle, rfl, (run_bind_ok first).symm.trans ran⟩
    | error error => cases (run_bind_error first).symm.trans ran

theorem bind_eq_error {error : CommandError}
    (ran : (action >>= next).run console = (.error error, after)) :
    action.run console = (.error error, after) ∨
      ∃ value middle, action.run console = (.ok value, middle) ∧
        (next value).run middle = (.error error, after) := by
  cases first : action.run console with
  | mk outcome middle =>
    cases outcome with
    | ok value => exact .inr ⟨value, middle, rfl, (run_bind_ok first).symm.trans ran⟩
    | error other =>
      cases (run_bind_error first).symm.trans ran
      exact .inl rfl

theorem run_edit (change : Disk.Edit Unit) (reason : FileError → CommandError) (console : Console) :
    (Console.edit change reason).run console =
      ((change.run console.disk).1.mapError reason, { console with disk := (change.run console.disk).2 }) := by
  unfold Console.edit
  rw [run_bind_ok (run_get console)]
  cases change.run console.disk with
  | mk result disk => cases result <;> rfl

end Action

namespace Console

/-- A console after some more lines in the second stream. -/
def told (console : Console) (lines : List String) : Console :=
  { console with errors := lines.foldl (fun text line => text ++ line ++ "\n") console.errors }

@[simp] theorem told_disk (console : Console) (lines : List String) :
    (console.told lines).disk = console.disk := rfl

theorem told_append (console : Console) (lines more : List String) :
    console.told (lines ++ more) = (console.told lines).told more := by
  simp [told]

/-- An action that only writes lines to the second stream. -/
def Tells (action : Action Unit) (lines : List String) : Prop :=
  ∀ console : Console, action.run console = (.ok (), console.told lines)

theorem Tells.nothing : Tells (pure ()) [] := fun _ => rfl

theorem tells_report (line : String) : Tells (report line) [line] := fun _ => rfl

theorem Tells.seq {first : Action Unit} {second : Unit → Action Unit} {lines more : List String}
    (one : Tells first lines) (two : Tells (second ()) more) :
    Tells (first >>= second) (lines ++ more) := by
  intro console
  rw [Action.run_bind_ok (one console), two, told_append]

theorem tells_forM {α : Type} {action : α → Action Unit} {lines : α → List String}
    (each : ∀ item, Tells (action item) (lines item)) (items : List α) :
    Tells (items.forM action) (items.flatMap lines) := by
  induction items with
  | nil => exact .nothing
  | cons item rest ih =>
    rw [List.flatMap_cons]
    exact (each item).seq ih

/-- The lines about what a scan could not look at: each by itself on request, and otherwise their
number. -/
def scanLines (settings : Settings) (scan : Scan) : List String :=
  if settings.verbose then scan.warnings.map (·.message)
  else if scan.skipped = 0 then []
  else ["warning: " ++ counted scan.skipped "path" ++ " could not be accessed (use -v for details)"]

def brokenOffLines (brokenOff : List (String × Nat)) : List String :=
  brokenOff.map fun (path, line) =>
    "warning: " ++ path ++ ": parsing stopped at line " ++ toString line

/-- The lines about a file that failed. -/
def errorLines (failure : String × ExtractError) : List String :=
  ["error: " ++ failure.2.message, "  --> " ++ failure.1]

theorem tells_reportBrokenOff (brokenOff : List (String × Nat)) :
    Tells (reportBrokenOff brokenOff) (brokenOffLines brokenOff) := by
  have each := tells_forM (fun stop : String × Nat => tells_report
    ("warning: " ++ stop.1 ++ ": parsing stopped at line " ++ toString stop.2)) brokenOff
  rwa [← List.map_eq_flatMap] at each

theorem tells_reportErrors (errors : List (String × ExtractError)) :
    Tells (reportErrors errors) (errors.flatMap errorLines ++
      ["✘ " ++ counted errors.length "file" ++ " failed, nothing written"]) := by
  refine (tells_forM (fun failure => ?_) errors).seq (tells_report _)
  exact (tells_report _).seq (tells_report _)

end Console

end Querymap
