import OneFile.Text.Basic

/-!
# Names of pseudo-classes and pseudo-elements

## Main definitions

* `OneFile.Style.Pseudo.classNames`, `OneFile.Style.Pseudo.elementNames` — the names that are known.
-/

namespace OneFile.Style.Pseudo

/-- The pseudo-classes that say where an element is in its document. -/
def structuralNames : List String := [
  "first-child", "last-child", "only-child", "root", "empty", "scope", "host", "first-of-type",
  "last-of-type", "only-of-type"]

/-- The pseudo-classes for what the user does with an element. -/
def actionNames : List String := ["hover", "active", "focus", "focus-visible", "focus-within"]

/-- The pseudo-classes for the state of a scroll bar. -/
def scrollbarStates : List String := [
  "horizontal", "vertical", "decrement", "increment", "start", "end", "double-button",
  "single-button", "no-button", "corner-present", "window-inactive"]

/-- The pseudo-classes for states that both elements and scroll bars have. -/
def sharedStates : List String := ["enabled", "disabled", "hover", "active"]

/-- The other pseudo-classes that are known. -/
def otherClassNames : List String := [
  "current", "past", "future", "playing", "paused", "seeking", "buffering", "stalled", "muted",
  "volume-locked", "fullscreen", "-webkit-full-screen", "-moz-full-screen", "-ms-fullscreen",
  "open", "closed", "modal", "picture-in-picture", "popover-open", "defined", "any-link",
  "-webkit-any-link", "-moz-any-link", "link", "local-link", "target", "target-within", "visited",
  "enabled", "disabled", "read-only", "-moz-read-only", "read-write", "-moz-read-write",
  "placeholder-shown", "-moz-placeholder-shown", "-ms-placeholder-shown", "default", "checked",
  "indeterminate", "blank", "valid", "invalid", "in-range", "out-of-range", "required", "optional",
  "user-valid", "user-invalid", "autofill", "-webkit-autofill", "-o-autofill",
  "active-view-transition"]

/-- The pseudo-classes that are known, apart from the structural ones. -/
def classNames : List String := actionNames ++ scrollbarStates ++ otherClassNames

/-- The pseudo-elements that may be written with a single colon. -/
def oldElementNames : List String := ["before", "after", "first-line", "first-letter"]

/-- The parts of scroll bars. -/
def scrollbarElements : List String := [
  "-webkit-scrollbar", "-webkit-scrollbar-button", "-webkit-scrollbar-track",
  "-webkit-scrollbar-track-piece", "-webkit-scrollbar-thumb", "-webkit-scrollbar-corner",
  "-webkit-resizer"]

/-- The pseudo-elements with names of view transitions in parentheses. -/
def transitionElements : List String := [
  "view-transition-group", "view-transition-image-pair", "view-transition-old",
  "view-transition-new"]

/-- The pseudo-elements that elements in a slot have. -/
def slottedElements : List String := [
  "before", "after", "marker", "placeholder", "-webkit-input-placeholder", "-moz-placeholder",
  "-ms-input-placeholder", "file-selector-button", "-webkit-file-upload-button", "-ms-browse"]

/-- The pseudo-elements that are known. -/
def elementNames : List String := oldElementNames ++ scrollbarElements ++ slottedElements ++ [
  "details-content", "target-text", "search-text", "spelling-error", "grammar-error", "cue",
  "cue-region", "selection", "-moz-selection", "backdrop", "-webkit-backdrop", "view-transition",
  "picker-icon", "checkmark"]

end OneFile.Style.Pseudo
