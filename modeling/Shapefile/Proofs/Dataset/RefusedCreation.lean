import Shapefile.Proofs.Dataset.CreationSteps
import Shapefile.Proofs.Dataset.Lockstep
import Shapefile.Text.SampleSets

/-! A creation that is refused because its shape type has no records. The
type is looked up after the code page, the shape file and the index have been
put there, so the dataset stays unopened, but these files are not as they
were: what an earlier dataset had in them is gone. -/
namespace Shapefile.Dataset

open Shapefile.Path

/-- Creating shape file and index leaves both of them empty, at names of their
own, and every other file as it was. -/
theorem fileAt?_of_created {disk second last : Disk} (hSound : disk.Sound) {path : Path}
    {shapesId indexId : FileId}
    (hShapes : disk.create (path.withExtension "shp") = .ok (shapesId, second))
    (hIndex : second.create (path.withExtension "shx") = .ok (indexId, last)) :
    ∃ shapes index,
      disk.locate (path.withExtension "shp") = .ok shapes ∧
      disk.locate (path.withExtension "shx") = .ok index ∧ shapes ≠ index ∧
      disk.node? shapes ≠ some .directory ∧ disk.node? index ≠ some .directory ∧
      last.fileAt? shapes = some #[] ∧ last.fileAt? index = some #[] ∧
      ∀ names, names ≠ shapes → names ≠ index → last.fileAt? names = disk.fileAt? names := by
  obtain ⟨hShp, hShx, _⟩ := plain_companions
  obtain ⟨shapes, hAtShapes, hPutShapes⟩ := Disk.create_ok hSound hShapes
  obtain ⟨index, hAtIndex, hPutIndex⟩ := Disk.create_ok hPutShapes.sound hIndex
  have hIndexFree := mt (hPutShapes.folder_iff index).mpr hPutIndex.free
  rw [hPutShapes.kept.locate_iff] at hAtIndex
  have hApart := Disk.companions_apart hShp hShx (by decide) hAtShapes hAtIndex
    hPutShapes.free hIndexFree
  refine ⟨shapes, index, hAtShapes, hAtIndex, hApart, hPutShapes.free, hIndexFree, ?_,
    hPutIndex.fileAt?_eq, fun names hNotShapes hNotIndex => ?_⟩
  · rw [hPutIndex.fileAt?_other hApart, hPutShapes.fileAt?_eq]
  · rw [hPutIndex.fileAt?_other hNotIndex, hPutShapes.fileAt?_other hNotShapes]

/-- The files of a creation that is refused for its shape type: shape file and
index are empty, the code page is named unless it is the standard one, and
every other file has what it had. -/
theorem fileAt?_of_unsupported [Host] {disk : Disk} (hSound : disk.Sound) {d : Dataset}
    {path : Path} {t : ShapeType} {h : TableHeader} {cause : ShapeError} {last : Disk}
    (hError : runOn (d.create path t h) disk = (.error (.shape cause), last)) :
    ∃ shapes index,
      disk.locate (path.withExtension "shp") = .ok shapes ∧
      disk.locate (path.withExtension "shx") = .ok index ∧ shapes ≠ index ∧
      last.fileAt? shapes = some #[] ∧ last.fileAt? index = some #[] ∧
      ((h.codePage.isStandard = true ∧
          ∀ names, names ≠ shapes → names ≠ index → last.fileAt? names = disk.fileAt? names) ∨
        (h.codePage.isStandard = false ∧ ∃ page,
          disk.locate (path.withExtension "cpg") = .ok page ∧ page ≠ shapes ∧ page ≠ index ∧
          last.fileAt? page = some (labelBytes h.codePage) ∧
          ∀ names, names ≠ shapes → names ≠ index → names ≠ page →
            last.fileAt? names = disk.fileAt? names)) := by
  obtain ⟨hShp, hShx, _, _, hCpg⟩ := plain_companions
  obtain ⟨_, _, file?, middle, shapesFile, second, indexFile, hPage, hShapes, hIndex⟩ :=
    create_unsupported hError
  have hShapesCreated := (runOn_createFile_ok hShapes).2
  have hIndexCreated := (runOn_createFile_ok hIndex).2
  rcases createCodePage_ok hPage with ⟨hStandard, rfl⟩ | ⟨hOther, hSave⟩
  · obtain ⟨shapes, index, hAtShapes, hAtIndex, hApart, _, _, hShapesEmpty, hIndexEmpty, hOthers⟩ :=
      fileAt?_of_created hSound hShapesCreated hIndexCreated
    exact ⟨shapes, index, hAtShapes, hAtIndex, hApart, hShapesEmpty, hIndexEmpty,
      Or.inl ⟨hStandard, hOthers⟩⟩
  · obtain ⟨page, _, hAtPage, hPut⟩ := Disk.save_ok hSound hSave
    obtain ⟨shapes, index, hAtShapes, hAtIndex, hApart, hShapesFree, hIndexFree, hShapesEmpty,
      hIndexEmpty, hOthers⟩ := fileAt?_of_created hPut.sound hShapesCreated hIndexCreated
    rw [hPut.kept.locate_iff] at hAtShapes hAtIndex
    have hPageShapes := Disk.companions_apart hCpg hShp (by decide) hAtPage hAtShapes
      hPut.free (mt (hPut.folder_iff shapes).mpr hShapesFree)
    have hPageIndex := Disk.companions_apart hCpg hShx (by decide) hAtPage hAtIndex
      hPut.free (mt (hPut.folder_iff index).mpr hIndexFree)
    refine ⟨shapes, index, hAtShapes, hAtIndex, hApart, hShapesEmpty, hIndexEmpty,
      Or.inr ⟨hOther, page, hAtPage, hPageShapes, hPageIndex, ?_,
        fun names hNotShapes hNotIndex hNotPage => ?_⟩⟩
    · rw [hOthers page hPageShapes hPageIndex, hPut.fileAt?_eq]
    · rw [hOthers names hNotShapes hNotIndex, hPut.fileAt?_other hNotPage]

theorem replaceBy_error {d next : Dataset} {result : Except DatasetError Dataset × Disk}
    {e : DatasetError} {last : Disk} (hError : d.replaceBy result = (.error e, next, last)) :
    result = (.error e, last) ∧ next = d := by
  obtain ⟨_ | _, _⟩ := result
  · cases hError
    exact ⟨rfl, rfl⟩
  · cases hError

/-- A creation that is refused for its shape type leaves the dataset unopened,
but empties the shape file and the index under the path, and names the page
in the code page file unless it is the standard one. No other file is touched.
So it destroys nothing, and makes nothing, exactly if both files were there
and empty and the code page was already named. -/
theorem refused_creation_iff [Host] {disk : Disk} (hSound : disk.Sound) {d next : Dataset}
    {path : Path} {t : ShapeType} {h : TableHeader} {cause : UnsupportedShape} {last : Disk}
    (hRefused : d.perform disk (.create path t h) =
      (.error (.shape (.unsupported cause)), next, last)) :
    next = d ∧ d.state = .unopened ∧ t.format? = none ∧
    (∀ names, last.fileAt? names =
      if disk.locate (path.withExtension "shp") = .ok names ∨
          disk.locate (path.withExtension "shx") = .ok names then some #[]
      else if h.codePage.isStandard = false ∧
          disk.locate (path.withExtension "cpg") = .ok names then some (labelBytes h.codePage)
      else disk.fileAt? names) ∧
    ((∀ names, last.fileAt? names = disk.fileAt? names) ↔
      (∀ names, disk.locate (path.withExtension "shp") = .ok names ∨
        disk.locate (path.withExtension "shx") = .ok names → disk.fileAt? names = some #[]) ∧
      (h.codePage.isStandard = false → ∀ names,
        disk.locate (path.withExtension "cpg") = .ok names →
          disk.fileAt? names = some (labelBytes h.codePage))) := by
  obtain ⟨hError, hSame⟩ := replaceBy_error hRefused
  obtain ⟨hUnopened, hNone, _⟩ := create_unsupported hError
  obtain ⟨shapes, index, hAtShapes, hAtIndex, hApart, hShapes, hIndex, hRest⟩ :=
    fileAt?_of_unsupported hSound hError
  refine ⟨hSame, hUnopened, hNone, ?_⟩
  have hEmptied : ∀ names, shapes = names ∨ index = names → last.fileAt? names = some #[] := by
    rintro names (rfl | rfl)
    · exact hShapes
    · exact hIndex
  simp only [hAtShapes, hAtIndex, Except.ok.injEq]
  rcases hRest with ⟨hStandard, hOthers⟩ | ⟨hOther, page, hAtPage, hPageShapes, hPageIndex, hPage,
    hOthers⟩
  · simp only [hStandard, Bool.true_eq_false, false_and, if_false, false_implies, and_true]
    have hLast : ∀ names, last.fileAt? names =
        if shapes = names ∨ index = names then some #[] else disk.fileAt? names := by
      intro names
      split
      next hEither => exact hEmptied names hEither
      next hNeither =>
        rw [not_or] at hNeither
        exact hOthers names (Ne.symm hNeither.1) (Ne.symm hNeither.2)
    refine ⟨hLast, fun hAll names hEither => ?_, fun hAll names => ?_⟩
    · rw [← hAll, hEmptied names hEither]
    · rw [hLast]
      split
      next hEither => exact (hAll names hEither).symm
      next => rfl
  · simp only [hOther, hAtPage, Except.ok.injEq, true_and, true_implies]
    have hLast : ∀ names, last.fileAt? names =
        if shapes = names ∨ index = names then some #[]
        else if page = names then some (labelBytes h.codePage) else disk.fileAt? names := by
      intro names
      split
      next hEither => exact hEmptied names hEither
      next hNeither =>
        rw [not_or] at hNeither
        split
        next hHere => rw [← hHere, hPage]
        next hElsewhere =>
          exact hOthers names (Ne.symm hNeither.1) (Ne.symm hNeither.2) (Ne.symm hElsewhere)
    refine ⟨hLast, fun hAll => ⟨fun names hEither => ?_, ?_⟩, fun ⟨hEmpty, hNamed⟩ names => ?_⟩
    · rw [← hAll, hEmptied names hEither]
    · rintro names rfl
      rw [← hAll, hPage]
    · rw [hLast]
      split
      next hEither => exact (hEmpty names hEither).symm
      next =>
        split
        next hHere => exact (hNamed names hHere).symm
        next => rfl

theorem refused_creation_in_empty_folder : ∃ next last,
    ({} : Dataset).perform {} (.create ⟨"towns.shp"⟩ .multiPatch (.new .epoch)) =
      (.error (.shape (.unsupported (.noFormat .multiPatch))), next, last) ∧
      last.fileAt? ["towns.shp"] = some #[] := by
  rcases hRefused : ({} : Dataset).perform {} (.create ⟨"towns.shp"⟩ .multiPatch (.new .epoch)) with
    ⟨result, next, last⟩
  have hResult : (({} : Dataset).perform {} (.create ⟨"towns.shp"⟩ .multiPatch (.new .epoch))).1 =
      .error (.shape (.unsupported (.noFormat .multiPatch))) := by
    decide +kernel
  rw [hRefused] at hResult
  cases hResult
  refine ⟨next, last, rfl, ?_⟩
  have hFiles := (refused_creation_iff Disk.sound_empty hRefused).2.2.2.1 ["towns.shp"]
  rw [hFiles, if_pos (Or.inl (by decide +kernel))]

/-- What an earlier dataset has in its shape file. -/
def townShapes : Bytes := (Text.Utf8.encode "geometries".toList).toArray

/-- A folder with the shape file of an earlier dataset. -/
def townsFolder : Disk := ⟨[(["towns.shp"], .file 0)], #[townShapes]⟩

/-- The shape file of the earlier dataset is emptied, and an index appears. -/
theorem refused_creation_empties_shapes :
    townsFolder.Sound ∧ townsFolder.fileAt? ["towns.shp"] = some townShapes ∧
      townsFolder.fileAt? ["towns.shx"] = none ∧ ∃ next last,
        ({} : Dataset).perform townsFolder (.create ⟨"towns.shp"⟩ .multiPatch (.new .epoch)) =
          (.error (.shape (.unsupported (.noFormat .multiPatch))), next, last) ∧
        last.fileAt? ["towns.shp"] = some #[] ∧ last.fileAt? ["towns.shx"] = some #[] := by
  have hSaved : ({} : Disk).save ⟨"towns.shp"⟩ townShapes = .ok townsFolder := by decide +kernel
  obtain ⟨_, _, _, hPut⟩ := Disk.save_ok Disk.sound_empty hSaved
  refine ⟨hPut.sound, by decide +kernel, by decide +kernel, ?_⟩
  rcases hRefused : ({} : Dataset).perform townsFolder
    (.create ⟨"towns.shp"⟩ .multiPatch (.new .epoch)) with ⟨result, next, last⟩
  have hLast : (fun (answer : Except DatasetError Unit × Dataset × Disk) =>
      (answer.1, answer.2.2.fileAt? ["towns.shp"], answer.2.2.fileAt? ["towns.shx"]))
        (({} : Dataset).perform townsFolder (.create ⟨"towns.shp"⟩ .multiPatch (.new .epoch))) =
      (.error (.shape (.unsupported (.noFormat .multiPatch))), some #[], some #[]) := by
    decide +kernel
  rw [hRefused] at hLast
  simp only [Prod.mk.injEq] at hLast
  obtain ⟨rfl, hShapes, hIndex⟩ := hLast
  exact ⟨next, last, rfl, hShapes, hIndex⟩

end Shapefile.Dataset
