import ClusterSetup.Resource

namespace ClusterSetup.ResourceTable

/-- Prints the cluster stack packages of a system with rpm, one tag and version on a line. -/
def rpmStackVersions : String :=
  "for p in hb:heartbeat pm:pacemaker cs:corosync ais:openais; do v=$(rpm -q --qf " ++
  "'%\x7bVERSION\x7d' $\x7bp#*:\x7d 2>/dev/null) && echo $\x7bp%%:*\x7d:$v; done; true"

/-- Prints the cluster stack packages of a system with dpkg, without epochs and revisions. -/
def debStackVersions : String :=
  "for p in hb:heartbeat pm:pacemaker cs:corosync ais:openais; do " ++
  "v=$(dpkg-query -W -f='$\x7bVersion\x7d' $\x7bp#*:\x7d 2>/dev/null) && v=$\x7bv#*:\x7d " ++
  "&& echo $\x7bp%%:*\x7d:$\x7bv%%-*\x7d; done; true"

/-- Prints architecture and kernel, and the distribution as the system names itself. -/
def distDetection : String :=
  "echo arch:$(uname -m); echo kernel:$(uname -r); if [ -r /etc/os-release ]; then . " ++
  "/etc/os-release; echo dist:$ID; echo version:$VERSION_ID; elif [ -r /etc/SuSE-release " ++
  "]; then if grep -qi opensuse /etc/SuSE-release; then echo dist:opensuse; else echo " ++
  "dist:sles; fi; sed -n 's/^VERSION *= */version:/p' /etc/SuSE-release; fi; true"

/-- The texts that hold wherever no distribution has its own. -/
def sharedTexts : List (String × String) := [
  (ResourceKey.storageProbe,
   "/sbin/drbdadm help 2>/dev/null | grep 'Version: ' | sed 's/^Version: //' | sed 's/ .*//'"),
  (ResourceKey.stackProbe, rpmStackVersions),
  (ResourceKey.distProbe, distDetection),
  ("DrbdInst.latest", "8.4.1"),
  ("HbPmInst.latest", "3.0.5"),
  ("PmInst.latest", "1.1.6"),
  ("DrbdInst.install.text.1", "LINBIT.com: packages"),
  ("DrbdInst.install.method.1", "vendor-repository"),
  ("DrbdInst.install.1",
   "/bin/mkdir -p /tmp/drbdinst && cd /tmp/drbdinst && " ++
   "/usr/bin/wget --http-user='@USER@' --http-passwd='@PASSWORD@' -N " ++
   "http://www.linbit.com/support/drbd-8.4/@DISTVERSION@/@ARCH@/drbd-km-@KERNELVERSION@.@ARCH@.rpm " ++
   "&& /bin/rpm -Uvh /tmp/drbdinst/*.rpm"),
  ("DrbdInst.install.text.2", "git/source: make && make install"),
  ("DrbdInst.install.method.2", "source"),
  ("DrbdInst.install.2",
   "/bin/mkdir -p /tmp/drbdinst && cd /tmp/drbdinst && /usr/bin/wget -N " ++
   "http://oss.linbit.com/drbd/drbd-latest.tar.gz && /bin/tar xfz drbd-latest.tar.gz && cd " ++
   "drbd-8* && ./configure --prefix=/usr --localstatedir=/var --sysconfdir=/etc --with-km " ++
   "&& make && make install"),
  ("HbPmInst.install.text.1", "clusterlabs repository: yum"),
  ("HbPmInst.install.1",
   "/usr/bin/yum -y install heartbeat pacemaker && /sbin/chkconfig --add heartbeat"),
  ("PmInst.install.text.1", "clusterlabs repository: yum"),
  ("PmInst.install.1",
   "/usr/bin/yum -y install corosync pacemaker && /sbin/chkconfig --add corosync"),
  ("PmInst.install.text.2", "clusterlabs staging: yum"),
  ("PmInst.install.staging.2", "true"),
  ("PmInst.install.2",
   "/usr/bin/yum -y --enablerepo=clusterlabs-next install corosync pacemaker && " ++
   "/sbin/chkconfig --add corosync")]

def fedoraTexts : List (String × String) := [
  ("DrbdInst.install.text.3", "yum"),
  ("DrbdInst.install.3", "/usr/bin/yum -y install drbd-utils drbd-km-@KERNELVERSION@"),
  ("HbPmInst.install.text.1", "http://download.opensuse.org: yum"),
  ("HbPmInst.install.1",
   "wget -N -nd -P /etc/yum.repos.d/ " ++
   "http://download.opensuse.org/repositories/server:/ha-clustering/Fedora_@DISTVERSION@/server:ha-clustering.repo " ++
   "&& (/usr/sbin/groupadd haclient 2>/dev/null && /usr/sbin/useradd -g haclient hacluster " ++
   "2>/dev/null; echo 'hacluster:@HBPASSWD@' | /usr/sbin/chpasswd; yum -y install " ++
   "heartbeat pacemaker && /sbin/chkconfig --add heartbeat)"),
  ("HbPmInst.install.text.2", "yum"),
  ("HbPmInst.install.2", "/usr/bin/yum -y install heartbeat")]

def suseTexts : List (String × String) := [
  ("DrbdInst.arch.i686", "i586"),
  ("DrbdInst.install.text.3", "zypper"),
  ("DrbdInst.install.3", "zypper -n --no-gpg-check install drbd drbd-kmp-default")]

def sles10Texts : List (String × String) := [
  ("HbPmInst.latest", "2.1.4"),
  ("HbPmInst.install.text.1", "SLES 10: zypper"),
  ("HbPmInst.install.1",
   "zypper -n --no-gpg-check install heartbeat && chkconfig --add heartbeat")]

def openSuse111Texts : List (String × String) := [
  ("PmInst.install.text.1", "http://download.opensuse.org: zypper"),
  ("PmInst.install.1",
   "wget -N -nd -P /etc/zypp/repos.d/ " ++
   "http://download.opensuse.org/repositories/server:/ha-clustering/openSUSE_11.1/server:ha-clustering.repo " ++
   "&& zypper -n --no-gpg-check install openais pacemaker && chkconfig --add openais"),
  ("HbPmInst.install.text.1", "http://download.opensuse.org: zypper"),
  ("HbPmInst.install.1",
   "wget -N -nd -P /etc/zypp/repos.d/ " ++
   "http://download.opensuse.org/repositories/server:/ha-clustering/openSUSE_11.1/server:ha-clustering.repo " ++
   "&& zypper -n --no-gpg-check install heartbeat pacemaker && chkconfig --add heartbeat")]

def debianTexts : List (String × String) := [
  (ResourceKey.stackProbe, debStackVersions),
  ("DrbdInst.install.text.3", "apt-get"),
  ("DrbdInst.install.3", "apt-get -y -q install drbd8-utils drbd8-module-@KERNELVERSION@"),
  ("HbPmInst.install.text.1", "apt-get"),
  ("HbPmInst.install.1",
   "apt-get -y -q -o 'DPkg::Options::=--force-confnew' install heartbeat pacemaker"),
  ("PmInst.install.text.1", "apt-get"),
  ("PmInst.install.1",
   "apt-get -y -q -o 'DPkg::Options::=--force-confnew' install corosync pacemaker")]

def builtinScopes : List (String × List (String × String)) := [
  ("", sharedTexts),
  ("fedora", fedoraTexts),
  ("suse", suseTexts),
  ("suse_sles10", sles10Texts),
  ("suse_OPENSUSE11_1", openSuse111Texts),
  ("debian", debianTexts)]

def builtin : ResourceTable :=
  builtinScopes.foldl
    (fun t scope => scope.2.foldl (fun t text => t.insert scope.1 text.1 text.2) t)
    empty

end ClusterSetup.ResourceTable

/-- The resources that the program comes with. -/
def ClusterSetup.Resources.builtin : ClusterSetup.Resources :=
  .ofTable ClusterSetup.ResourceTable.builtin
