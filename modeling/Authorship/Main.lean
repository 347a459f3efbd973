import Authorship.Command.Dispatch
import Authorship.DateText.Resolution
import Authorship.Raster.Plotter
import Std.Time.DateTime.Timestamp

namespace Authorship.Program

open Authorship.Calendar

def placeText (place : List String) : String :=
  "/" ++ "/".intercalate place

partial def entriesAt (place : List String) : IO (List (List String × Files.Node)) := do
  let path ← IO.FS.realPath (placeText place)
  if path.toString != placeText place then return []
  match (← path.metadata).type with
  | .dir =>
    let mut entries := [(place, Files.Node.directory)]
    for entry in ← path.readDir do
      entries := entries ++ (← (entriesAt (place ++ [entry.fileName])).catchExceptions
        fun _ => pure [])
    return entries
  | .file => return [(place, .file (← IO.FS.readBinFile path).toList)]
  | _ => return []

def snapshot (places : List (List String)) : IO Files.Tree := do
  let mut tree : Files.Tree := ⟨[]⟩
  for place in places do
    let entries ← (entriesAt place).catchExceptions fun _ => pure []
    unless entries.isEmpty do
      let above := tree.putParents place
      tree := ⟨entries ++ above.entries.filter fun entry => !place.isPrefixOf entry.1⟩
  return tree

def store (before after : Files.Tree) : IO Unit := do
  for (place, node) in after.entries.reverse do
    unless before.node? place == some node do
      match node with
      | .directory => IO.FS.createDirAll (placeText place)
      | .file content => IO.FS.writeBinFile (placeText place) ⟨content.toArray⟩
      | .image width height =>
        IO.eprintln ("Not drawn: " ++ placeText place ++ " (" ++ width.repr ++ " x " ++
          height.repr ++ ")")

def surroundings (arguments : List String) : IO Command.Surroundings := do
  let now ← Std.Time.Timestamp.now
  let here := Files.Path.ofText (← IO.currentDir).toString
  let home ← IO.getEnv "HOME"
  let named := arguments.map fun text => ((Files.Path.ofText text).absolute here).parts
  let clock := Timestamp.ofEpoch (now.toNanosecondsSinceUnixEpoch.toInt.toNat / 1000)
  return {
    machine := {
      clock := clock
      dates := DateText.reader clock.universalDate
      workDir := here.parts
      home? := fun user => if user == "" then home.map Files.Path.ofText else none }
    files := ← snapshot (here.parts :: named.filter (!here.parts.isPrefixOf ·))
    git := ⟨none⟩
    backend := fun dpi => Raster.plotter.backend dpi here.parts }

def finish (arguments : List String) (before : Files.Tree) (report : Command.Report) :
    IO UInt32 := do
  store before report.files
  IO.print report.out
  IO.eprint report.err
  match report.outcome with
  | .finished code => return code.toUInt32
  | .failed failure =>
    IO.eprintln failure.message
    return 1
  | .stopped stop =>
    let text := Command.stopText arguments stop
    unless text.isEmpty do IO.eprintln text
    return stop.code.toUInt32

end Authorship.Program

def main (arguments : List String) : IO UInt32 := do
  let surroundings ← Authorship.Program.surroundings arguments
  Authorship.Program.finish arguments surroundings.files
    (Authorship.Command.report surroundings arguments)
