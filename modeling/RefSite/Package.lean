import RefSite.Text.Basic

namespace RefSite

structure Package where
  title : Text := []
  id : Text := []
  description : Text := []
  summary : Text := []
  iconUrl : Option Text := none
  nugetUrl : Option Text := none
  devopsUrl : Option Text := none
  repositoryUrl : Option Text := none
  releaseBadgeUrl : Option Text := none
  deriving DecidableEq, Repr

end RefSite
