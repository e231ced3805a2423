namespace ClusterSetup.Path

/-- Appends a relative path to a directory. -/
def under (directory name : String) : String :=
  if directory.isEmpty || directory.toList.getLast? = some '/' then directory ++ name
  else directory ++ "/" ++ name

end ClusterSetup.Path
