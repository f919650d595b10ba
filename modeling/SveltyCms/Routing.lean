import SveltyCms.JsString

/-!
# Routing a watcher event

The `'all'` listener of `configureServer` normalises the event's path and sends it down
the collection pipeline when `isCollectionFile` holds: the normalised path starts with the
normalised `userCollections` and the raw path ends in `.ts` or `.js`. The comment above the
test reads `config/collections/**/*.ts and **/*.js`.

`isCollectionFile_iff` is the test as a statement about lists: a string prefix, not a
directory prefix. Every file strictly inside the directory passes (`isCollectionFile_of_insideDir`),
but so does a file of a sibling directory whose name extends the directory's, such as
`config/collections-old/a.ts`.

The extension is tested on the raw path, the rest on normalised paths; since `.ts` and `.js`
hold no separator, routing still reads a path only through `normalizePath`, and a Windows
spelling is routed like a POSIX one (`routing_ignores_separator`).
-/

namespace SveltyCms

/-- `normalizePath(p)`, that is `p.replace(/\\/g, '/')`. -/
def normalizePath (p : String) : String :=
  ⟨p.data.map fun c => if c = '\\' then '/' else c⟩

/-- `normalizedFile.startsWith(normalizedUserCollections) && (file.endsWith('.ts') ||
file.endsWith('.js'))`. -/
def isCollectionFile (userCollections file : String) : Bool :=
  startsWith (normalizePath file) (normalizePath userCollections) &&
    (endsWith file ".ts" || endsWith file ".js")

/-- `normalizedFile === normalizedConfigRolesPath`. -/
def isRolesFile (rolesPath file : String) : Bool :=
  normalizePath file == normalizePath rolesPath

/-- A file strictly inside `dir`: its normalised path is `dir`'s, a `/`, and at least one
more character. -/
def insideDir (dir file : String) : Bool :=
  ((normalizePath dir).data ++ ['/']).isPrefixOf (normalizePath file).data &&
    decide ((normalizePath dir).data.length + 1 < (normalizePath file).data.length)

/-- A path ending in `.ts` or `.js`. -/
def hasScriptExtension (file : String) : Bool :=
  endsWith file ".ts" || endsWith file ".js"

theorem isCollectionFile_iff (userCollections file : String) :
    isCollectionFile userCollections file = true ↔
      (normalizePath userCollections).data <+: (normalizePath file).data ∧
        hasScriptExtension file = true := by
  simp [isCollectionFile, hasScriptExtension]

theorem isCollectionFile_of_insideDir {userCollections file : String}
    (h : insideDir userCollections file = true) (hx : hasScriptExtension file = true) :
    isCollectionFile userCollections file = true := by
  simp only [insideDir, Bool.and_eq_true, List.isPrefixOf_iff_prefix] at h
  exact (isCollectionFile_iff _ _).2 ⟨(List.prefix_append _ _).trans h.1, hx⟩

/-- A collection file has a name: JavaScript treats it as truthy. -/
theorem ne_empty_of_isCollectionFile {userCollections file : String}
    (h : isCollectionFile userCollections file = true) : file ≠ "" := by
  rintro rfl
  simp [isCollectionFile, endsWith] at h

/-! ## Either separator -/

/-- A path ends in a text with no `/` and no `\\` exactly when its normalised form does. -/
theorem endsWith_normalizePath (file suffix : String) (hs : '/' ∉ suffix.data)
    (hb : '\\' ∉ suffix.data) : endsWith (normalizePath file) suffix = endsWith file suffix := by
  rw [Bool.eq_iff_iff, endsWith_iff, endsWith_iff]
  constructor
  · rintro ⟨t, ht⟩
    obtain ⟨l₁, l₂, hl, -, h₂⟩ := List.map_eq_append_iff.1 ht.symm
    have hfix : ∀ c ∈ l₂, (if c = '\\' then '/' else c) = c := fun c hc =>
      if_neg fun hcb => hs (h₂ ▸ List.mem_map.2 ⟨c, hc, if_pos hcb⟩)
    have hsuffix : l₂ = suffix.data := h₂ ▸ ((List.map_congr_left hfix).trans (List.map_id l₂)).symm
    exact ⟨l₁, by rw [← hsuffix, ← hl]⟩
  · intro h
    have hfix : ∀ c ∈ suffix.data, (if c = '\\' then '/' else c) = c := fun c hc =>
      if_neg fun (hcb : c = '\\') => hb (hcb ▸ hc)
    simpa only [normalizePath, (List.map_congr_left hfix).trans (List.map_id _)] using
      h.map fun c => if c = '\\' then '/' else c

/-- Routing reads a path only through `normalizePath`: two spellings of a file, of the
collections directory or of the roles path that differ only in `\\` against `/` are routed
alike, to the debounce timer and to the reload of the roles. -/
theorem routing_ignores_separator {userCollections userCollections' rolesPath rolesPath'
      file file' : String}
    (hf : normalizePath file = normalizePath file')
    (hu : normalizePath userCollections = normalizePath userCollections')
    (hr : normalizePath rolesPath = normalizePath rolesPath') :
    isCollectionFile userCollections file = isCollectionFile userCollections' file' ∧
      isRolesFile rolesPath file = isRolesFile rolesPath' file' := by
  have hext : ∀ suffix : String, '/' ∉ suffix.data → '\\' ∉ suffix.data →
      endsWith file suffix = endsWith file' suffix := fun suffix hs hb => by
    rw [← endsWith_normalizePath file suffix hs hb, hf, endsWith_normalizePath file' suffix hs hb]
  unfold isCollectionFile isRolesFile
  rw [hf, hu, hr, hext ".ts" (by decide) (by decide), hext ".js" (by decide) (by decide)]
  exact ⟨rfl, rfl⟩

/-- A Windows spelling of a collection file is routed like its POSIX spelling. -/
theorem windows_posts_routed_alike :
    normalizePath "C:\\app\\config\\collections\\Posts.ts" =
        normalizePath "C:/app/config/collections/Posts.ts" ∧
      normalizePath "C:\\app\\config\\collections" = normalizePath "C:/app/config/collections" ∧
      normalizePath "C:\\app\\config\\roles.ts" = normalizePath "C:/app/config/roles.ts" ∧
      isCollectionFile "C:\\app\\config\\collections" "C:\\app\\config\\collections\\Posts.ts" =
        isCollectionFile "C:/app/config/collections" "C:/app/config/collections/Posts.ts" ∧
      isRolesFile "C:\\app\\config\\roles.ts" "C:\\app\\config\\collections\\Posts.ts" =
        isRolesFile "C:/app/config/roles.ts" "C:/app/config/collections/Posts.ts" :=
  have hf : normalizePath "C:\\app\\config\\collections\\Posts.ts" =
      normalizePath "C:/app/config/collections/Posts.ts" := by decide
  have hu : normalizePath "C:\\app\\config\\collections" =
      normalizePath "C:/app/config/collections" := by decide
  have hr : normalizePath "C:\\app\\config\\roles.ts" = normalizePath "C:/app/config/roles.ts" := by
    decide
  ⟨hf, hu, hr, routing_ignores_separator hf hu hr⟩

end SveltyCms
