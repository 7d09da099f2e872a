import Lumiere.Controllers.Inversion

/-!
# The profile photo's write

`ProfileViewController` writes the download URL of the photo, without merge, to the document of
whoever is signed in when the URL arrives.
-/

namespace Lumiere
open Firestore

/-- The write of the download-URL callback of `imagePickerController`. -/
def saveProfilePhoto (currentUser : Option String) (absoluteString : String) :
    Except Trap Write :=
  (userDocument currentUser).map fun d => d.setData [("profilePhoto", .string absoluteString)]

/-- The photo overwrites the document of the user. -/
lemma saveProfilePhoto_inv {user url w} (e : saveProfilePhoto user url = .ok w) :
    ∃ d, userDocument user = .ok d ∧ w = .setData d.path [("profilePhoto", .string url)] := by
  obtain ⟨d, ed, rfl⟩ := except_map_inv e
  exact ⟨d, ed, rfl⟩

end Lumiere
