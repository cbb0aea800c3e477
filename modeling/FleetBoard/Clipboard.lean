import FleetBoard.Plan

/-!
# The Clipboard

A text gets into the clipboard of the system through a helper program, which
reads it. One platform always has its helper; on another one several are looked
for, in order of preference.

## Main definitions

* `ClipboardHelper`: A helper program with its arguments.
* `Clipboard.locate`: The helper of a platform.
* `Clipboard.copy`: A text is put into the clipboard.
-/

namespace FleetBoard

/-- A program that reads a text for the clipboard, with its arguments. -/
structure ClipboardHelper where
  program : Path
  args : List String
  deriving DecidableEq, Repr

namespace Clipboard

/-- The helpers that are looked for on the platform which has none of its own,
    the preferred ones first. -/
def candidates : List ClipboardHelper :=
  [⟨⟨"wl-copy"⟩, []⟩, ⟨⟨"xclip"⟩, ["-selection", "clipboard"]⟩,
    ⟨⟨"xsel"⟩, ["--clipboard", "--input"]⟩]

/-- The first helper that can be found. -/
def firstFound : List ClipboardHelper → Attempt ClipboardHelper
  | [] => throw .noClipboardTool
  | helper :: rest => do
    match ← Attempt.find helper.program.text with
    | some path => pure { helper with program := path }
    | none => firstFound rest

/-- The helper of a platform. -/
def locate (platform : String) : Attempt ClipboardHelper :=
  if platform = "macos" then pure ⟨⟨"pbcopy"⟩, []⟩
  else if platform = "linux" then firstFound candidates
  else throw (.unsupportedPlatform platform)

/-- A text is put into the clipboard. What the helper prints does not matter. -/
def copy (platform : String) (text : String) : Attempt Unit := do
  let helper ← locate platform
  let outcome ← Attempt.run
    { program := helper.program.text, args := helper.args, input := text }
  Attempt.check (JobError.ofStatus? outcome.status)

end Clipboard

end FleetBoard
