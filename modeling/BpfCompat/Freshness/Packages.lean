import BpfCompat.Freshness

/-!
# The packages of a kernel release

Where the packages of a release are, as far as that can be read off the addresses of its header
packages.
-/

namespace Freshness

open Go

/-- The text up to its last slash, and what stands after it. -/
def splitLastSlash (s : Str) : Str × Str :=
  ((s.reverse.dropWhile (· ≠ 47)).reverse, (s.reverse.takeWhile (· ≠ 47)).reverse)

/-- The text without a suffix it has. -/
def trimSuffix (s suffix : Str) : Str :=
  if suffix.isSuffixOf s then s.take (s.length - suffix.length) else s

/-- The text with the first occurrence of a part replaced. -/
def replaceFirst (old new : Str) : Str → Str
  | [] => []
  | b :: s =>
    if old.isPrefixOf (b :: s) then new ++ (b :: s).drop old.length else b :: replaceFirst old new s

def httpsURL (raw : Str) : Str :=
  if (str "http://").isPrefixOf raw then str "https://" ++ raw.drop 7 else raw

/-- The packages beside the header package at an address. -/
def ubuntuPackages (release headerURL : Str) : Option (List Str) :=
  let (dir, base) := splitLastSlash headerURL
  let start := str "linux-headers-" ++ release ++ str "_"
  if !start.isPrefixOf base || !(str ".deb").isSuffixOf base then none
  else
    let rest := trimSuffix (base.drop start.length) (str ".deb")
    let version := rest.takeWhile (· ≠ 95)
    match rest.dropWhile (· ≠ 95) with
    | [] => none
    | _ :: arch =>
      if arch = str "all" then none
      else
        let package (name : String) :=
          httpsURL (dir ++ str name ++ release ++ str "_" ++ version ++ str "_" ++ arch ++ str ".deb")
        some [package "linux-modules-", package "linux-image-unsigned-"]

def ubuntuKernelDebs (entry : Entry) : Except Str (List Str) :=
  match entry.headers.findSome? (ubuntuPackages entry.kernelRelease) with
  | some debs => .ok debs
  | none =>
    .error (str "no flavor-specific headers URL for " ++ entry.kernelRelease ++
      str " to derive package URLs from")

/-- The packages beside the header package at an address, or why they cannot be told. -/
def rhelPackages (release headerURL : Str) : Option (Except Str (List Str)) :=
  if 47 ∉ headerURL then none
  else
    let (dir, base) := splitLastSlash headerURL
    if base = str "kernel-uek-devel-" ++ release ++ str ".rpm" then
      if ¬ str "/OracleLinux/" <:+: dir ∨ ¬ str "/UEKR" <:+: dir then
        some (.error (str "UEK headers URL for " ++ release ++
          str " is not under an OracleLinux UEKR repository: " ++ headerURL))
      else
        let package (name : String) := httpsURL (dir ++ str name ++ release ++ str ".rpm")
        some (.ok [package "kernel-uek-core-", package "kernel-uek-modules-core-",
          package "kernel-uek-modules-", package "kernel-uek-"])
    else if base ≠ str "kernel-devel-" ++ release ++ str ".rpm" then none
    else if ¬ str "/AppStream/" <:+: dir then
      some (.error (str "headers URL for " ++ release ++ str " is not under AppStream: " ++ headerURL))
    else
      let dir := replaceFirst (str "/AppStream/") (str "/BaseOS/") dir
      let package (name : String) := httpsURL (dir ++ str name ++ release ++ str ".rpm")
      some (.ok [package "kernel-core-", package "kernel-modules-core-", package "kernel-modules-"])

def rhelKernelRPMs (entry : Entry) : Except Str (List Str) :=
  match entry.headers.findSome? (rhelPackages entry.kernelRelease) with
  | some result => result
  | none =>
    .error (str "no kernel-devel headers URL for " ++ entry.kernelRelease ++
      str " to derive package URLs from")

/-! ### What is derived -/

theorem ubuntuKernelDebs_ne_nil {entry : Entry} {packages : List Str}
    (h : ubuntuKernelDebs entry = .ok packages) :
  packages ≠ []
  := by
  rw [ubuntuKernelDebs] at h
  split at h
  · rename_i debs hdebs
    cases h
    obtain ⟨url, -, hurl⟩ := List.exists_of_findSome?_eq_some hdebs
    rw [ubuntuPackages] at hurl
    dsimp only at hurl
    split_ifs at hurl
    split at hurl
    · cases hurl
    · split_ifs at hurl
      cases hurl
      exact List.cons_ne_nil _ _
  · cases h

theorem rhelKernelRPMs_ne_nil {entry : Entry} {packages : List Str}
    (h : rhelKernelRPMs entry = .ok packages) :
  packages ≠ []
  := by
  rw [rhelKernelRPMs] at h
  split at h
  · rename_i result hresult
    obtain ⟨url, -, hurl⟩ := List.exists_of_findSome?_eq_some hresult
    rw [h, rhelPackages] at hurl
    dsimp only at hurl
    split_ifs at hurl
    · cases hurl
    · cases hurl
      exact List.cons_ne_nil _ _
    · cases hurl
      exact List.cons_ne_nil _ _
    · cases hurl
  · cases h

end Freshness
