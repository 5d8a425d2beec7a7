import StorageMedia.IoError

/-! # Hosts

A host opens devices by their paths. Nothing is known about a path but what the host makes of it:
opening it twice may give two devices, one device and an error, or the same device again.
-/

namespace StorageMedia

/-- How devices are opened by path. -/
structure Host (σ : Type) where
  openDevice : String → Except IoError σ
  /-- Advise the system that an opened device will be read sequentially. -/
  adviseSequential : σ → Except IoError Unit

def Host.empty {σ : Type} : Host σ where
  openDevice _ := .error (.system SystemError.noEntry)
  adviseSequential _ := .ok ()

end StorageMedia
