import OperationClasses.Archive.Extract.Fault

/-!
# Extracting zip files

Members become files below a folder one after another. What would lead out of the folder is left
out of their names.
-/
namespace OperationClasses.Archive

/-- A step of unpacking a zip file. -/
abbrev ZipStep := Unpacking MemberFault

/-- The path of a member below a folder. -/
def memberPath (folder : Place) (name : String) : String :=
  Place.text (folder ++ (Path.parts name).filter (fun part => !(["", ".", ".."].contains part)))

/-- Unpacks a member. -/
def unpackZipEntry (data : ByteArray) (folder : Place) (e : Zip.Entry) : ZipStep Unit := do
  let path := memberPath folder e.name
  Unpacking.makeFolderAbove .file path
  if e.isFolder then Unpacking.makeFolder .file path
  else
    match Zip.content data e with
    | .error f => throw (.zip f)
    | .ok content => Unpacking.makeFile .file path (content.mapError .zip)

/-- Unpacks the members of a zip file. Of several of one name the last one counts. -/
def unpackZip (data : ByteArray) (folder : Place) : ZipStep Unit := do
  match Zip.entries data with
  | .error f => throw (.zip f)
  | .ok es => es.forM fun e => unpackZipEntry data folder ((Zip.find? es e.name).getD e)

end OperationClasses.Archive
