import DriveHealth.Farm.Layout

/-!
What a combined file says of itself: its version, the drive it was read from, and its datasets.
-/
namespace DriveHealth.Farm

structure Summary where
  major : UInt16
  minor : UInt16
  patch : UInt16
  interfaceTag : String
  identity : Identity
  headerLength : UInt16
  bitmap : UInt32
  descriptors : List Descriptor
  fileSize : Nat
  deriving DecidableEq, Inhabited

def Layout.summary (l : Layout) (kind : DriveKind) (identity : Identity) : Summary :=
  { major := majorVersion
    minor := minorVersion
    patch := patchVersion
    interfaceTag := kind.tag
    identity := identity
    headerLength := l.headerLength
    bitmap := l.bitmap
    descriptors := l.descriptors
    fileSize := l.fileSize }

end DriveHealth.Farm
