import OneFile.Style.Property.Box

/-!
# Properties of grids

## Main definitions

* `OneFile.Style.Property.grid`
-/

namespace OneFile.Style.Property

open Reading Value

/-! ### Tracks -/

/-- The width of a track. -/
def breadth : Reading Term :=
  Term.lengthPercentage <|> Term.measured (· == .share)
    <|> Term.oneWord ["min-content", "max-content", "auto"]

/-- The least width of a track, which cannot be a share of what is left. -/
def leastBreadth : Reading Term :=
  Term.lengthPercentage <|> Term.oneWord ["min-content", "max-content", "auto"]

/-- The widths that a track is between. -/
def minmax : Reading Term := do
  let (least, greatest) ← call "minmax" do
    let least ← leastBreadth
    comma
    return (least, ← breadth)
  return .call "minmax".toList [[least], [greatest]]

/-- The size of a track. -/
def track : Reading Term := breadth <|> minmax <|> fitContent

/-- The names of a line, in brackets. -/
def lineNames : Reading Term := do
  let names ← within .bracket (many ident)
  return .word ('[' :: ([' '].intercalate (names.map writeIdent) ++ [']']))

/-- Tracks with the names of lines between them, where `one` reads a track. -/
def trackRow (one : Reading Term) : Reading (List Term) := do
  let rows ← many do
    let names ← attempt lineNames
    return names.toList ++ [← one]
  guard !rows.isEmpty
  let last ← attempt lineNames
  return rows.flatten ++ last.toList

/-- Tracks that are repeated. -/
def repeated : Reading Term := do
  let (count, ts) ← call "repeat" do
    let count ← Term.oneWord ["auto-fill", "auto-fit"] <|> Term.integer
    comma
    return (count, ← trackRow track)
  return .call "repeat".toList [[count], ts]

/-- The tracks of a grid. -/
def tracks : Grammar := do
  if ← passes (word "none") then return [[.ofWord "none"]]
  return [← trackRow (track <|> repeated)]

/-! ### Lines -/

/-- A line of a grid, and whether it is given by a name alone. -/
def gridLine : Reading (List Term × Bool) := do
  if ← passes (word "auto") then return ([.ofWord "auto"], false)
  let spans ← passes (word "span")
  let found ← anyOrder [Term.integer, Term.customName]
  let spans ← if spans then pure true else passes (word "span")
  match found with
  | [index, name] =>
    guard (found.any Option.isSome)
    if spans then
      let index := index.filter fun t => name.isNone || !t.same (.number 1)
      return (.ofWord "span" :: index.toList ++ name.toList, false)
    return (index.toList ++ name.toList, index.isNone)
  | _ => failure

/-- A line from the start to the end, where the end is left out if it follows from the start. -/
def gridLines : Grammar := do
  let (start, isName) ← gridLine
  if ← passes (delim '/') then
    let (stop, _) ← gridLine
    let implied :=
      if isName then Term.writeTerms true start = Term.writeTerms true stop
      else stop matches [.word ['a', 'u', 't', 'o']]
    return [if implied then start else start ++ .slash :: stop]
  return [start]

/-! ### The list -/

/-- Properties of grids. -/
def grid : List Property :=
  each ["grid-template-columns", "grid-template-rows"] tracks
    ++ each ["grid-auto-columns", "grid-auto-rows"] (do
      let ts ← many track
      guard !ts.isEmpty
      return [ts])
    ++ each ["grid-row-start", "grid-row-end", "grid-column-start", "grid-column-end"] (do
      return [(← gridLine).1])
    ++ each ["grid-row", "grid-column"] gridLines
    ++ ["grid-auto-flow", "grid-template-areas", "grid-template", "grid", "grid-area"].map bare

end OneFile.Style.Property
