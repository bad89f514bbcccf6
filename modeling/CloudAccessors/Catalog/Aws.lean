import CloudAccessors.Descriptor.Basic

/-!
# The accessors of Amazon Web Services

One descriptor per accessor, grouped by what the services are for. The order of the list is the
order of the generated interface.
-/

namespace CloudAccessors.Catalog

/-- Virtual machines, networks and volumes. -/
def compute : List Descriptor :=
  [ { entity := "Instances", service := "ec2", callPrefix := "Describe",
      attributePath := some "Reservations#Instances",
      documentation := "GetInstances returns all EC2 instances based on the input given" },
    { entity := "Vpcs", service := "ec2", callPrefix := "Describe",
      documentation := "GetVpcs returns all EC2 VPCs based on the input given" },
    { entity := "VpcPeeringConnections", service := "ec2", callPrefix := "Describe",
      documentation := "GetVpcPeeringConnections returns all EC2 VPC Peering Connections based " ++
        "on the input given" },
    { entity := "Subnets", service := "ec2", callPrefix := "Describe", unpaginated := true,
      documentation := "GetSubnets returns all EC2 subnets based on the input given" },
    { entity := "SecurityGroups", service := "ec2", callPrefix := "Describe",
      documentation := "GetSecurityGroups returns all EC2 security groups based on the input " ++
        "given" },
    { entity := "Images", service := "ec2", callPrefix := "Describe",
      ownerField := some "Owners", unpaginated := true,
      documentation := "GetOwnImages returns all EC2 AMI belonging to the Account ID based on " ++
        "the input given" },
    { entity := "Snapshots", service := "ec2", callPrefix := "Describe",
      ownerField := some "OwnerIds",
      documentation := "GetOwnSnapshots returns all snapshots belonging to the Account ID " ++
        "based on the input given" },
    { entity := "Volumes", service := "ec2", callPrefix := "Describe",
      documentation := "GetVolumes returns all EC2 volumes based on the input given" },
    { entity := "LaunchTemplates", service := "ec2", callPrefix := "Describe",
      documentation := "GetLaunchTemplates returns all LaunchTemplates belonging to the " ++
        "Account ID based on the input given" },
    { entity := "KeyPairs", service := "ec2", callPrefix := "Describe",
      singular := some "KeyPairInfo", unpaginated := true,
      documentation := "GetKeyPairs returns all KeyPairs based on the input given" },
    { entity := "InternetGateways", service := "ec2", callPrefix := "Describe",
      documentation := "GetInternetGateways returns all EC2 Internet Gateways based on the " ++
        "input given" },
    { entity := "NatGateways", service := "ec2", callPrefix := "Describe",
      documentation := "GetNatGateways returns all EC2 NAT Gateways based on the input given" },
    { entity := "RouteTables", service := "ec2", callPrefix := "Describe",
      documentation := "GetRouteTables returns all EC2 Route Tables based on the input given" },
    { entity := "Addresses", service := "ec2", callPrefix := "Describe", unpaginated := true,
      documentation := "GetAddresses returns all EC2 Elastic IP addresses based on the input " ++
        "given" } ]

/-- Scaling groups and load balancers. -/
def loadBalancing : List Descriptor :=
  [ { entity := "AutoScalingGroups", service := "autoscaling", callPrefix := "Describe",
      elementType := some "autoscaling.Group",
      documentation := "GetAutoScalingGroups returns all AutoScalingGroups based on the input " ++
        "given" },
    { entity := "LaunchConfigurations", service := "autoscaling", callPrefix := "Describe",
      documentation := "GetLaunchConfigurations returns all LaunchConfigurations based on the " ++
        "input given" },
    { entity := "LoadBalancers", service := "elb", callPrefix := "Describe",
      elementType := some "elb.LoadBalancerDescription",
      attributePath := some "LoadBalancerDescriptions", tokenField := some "NextMarker",
      inputTokenField := some "Marker",
      documentation := "GetLoadBalancers returns a list of ELB (v1) based on the input from " ++
        "the different regions" },
    { entity := "LoadBalancersV2", service := "elbv2", callPrefix := "Describe",
      elementType := some "elbv2.LoadBalancer", attributePath := some "LoadBalancers",
      callName := some "LoadBalancers", tokenField := some "NextMarker",
      inputTokenField := some "Marker",
      documentation := "GetLoadBalancersV2 returns a list of ELB (v2) - also known as ALB - " ++
        "based on the input from the different regions" },
    { entity := "LoadBalancersV2Listeners", service := "elbv2", callPrefix := "Describe",
      elementType := some "elbv2.Listener", attributePath := some "Listeners",
      callName := some "Listeners", tokenField := some "NextMarker",
      inputTokenField := some "Marker",
      documentation := "GetLoadBalancersV2Listeners returns a list of Listeners based on the " ++
        "input from the different regions" },
    { entity := "LoadBalancersV2TargetGroups", service := "elbv2", callPrefix := "Describe",
      elementType := some "elbv2.TargetGroup", attributePath := some "TargetGroups",
      callName := some "TargetGroups", tokenField := some "NextMarker",
      inputTokenField := some "Marker",
      documentation := "GetLoadBalancersV2TargetGroups returns a list of TargetGroups based on " ++
        "the input from the different regions" } ]

/-- Buckets, distributions, zones and file systems. -/
def storageAndDelivery : List Descriptor :=
  [ { entity := "Buckets", service := "s3", callPrefix := "List",
      elementType := some "s3.Bucket", unpaginated := true,
      documentation := "GetBuckets returns all S3 buckets based on the input given and " ++
        "specifically\nfiltered by Location as the ListBuckets does not do it by itself" },
    { entity := "BucketTags", service := "s3", callPrefix := "Get",
      signature := some
        "GetBucketTags(ctx context.Context, input *s3.GetBucketTaggingInput) ([]*s3.Tag, error)",
      documentation := "GetBucketTags returns the tags of the bucket named in the input",
      handWritten := true },
    { entity := "CloudFrontDistributions", service := "cloudfront", callPrefix := "List",
      elementType := some "cloudfront.DistributionSummary",
      attributePath := some "DistributionList.Items", callName := some "Distributions",
      tokenField := some "DistributionList.NextMarker", inputTokenField := some "Marker",
      documentation := "GetCloudFrontDistributions returns all the CloudFront Distributions on " ++
        "the given input" },
    { entity := "CloudFrontOriginAccessIdentities", service := "cloudfront",
      callPrefix := "List", elementType := some "cloudfront.OriginAccessIdentitySummary",
      attributePath := some "CloudFrontOriginAccessIdentityList.Items",
      callName := some "CloudFrontOriginAccessIdentities",
      tokenField := some "CloudFrontOriginAccessIdentityList.NextMarker",
      inputTokenField := some "Marker",
      documentation := "GetCloudFrontOriginAccessIdentities returns all the CloudFront Origin " ++
        "Access Identities on the given input" },
    { entity := "HostedZones", service := "route53", callPrefix := "List",
      tokenField := some "NextMarker", inputTokenField := some "Marker",
      documentation := "GetHostedZones returns all the HostedZones based on the input given" },
    { entity := "ResourceRecordSets", service := "route53", callPrefix := "List",
      tokenField := some "NextRecordName", inputTokenField := some "StartRecordName",
      documentation := "GetResourceRecordSets returns the ResourceRecordSets of a HostedZone " ++
        "based on the input given" },
    { entity := "EFSFileSystems", service := "efs", callPrefix := "Describe",
      elementType := some "efs.FileSystemDescription", attributePath := some "FileSystems",
      callName := some "FileSystems", tokenField := some "NextMarker",
      inputTokenField := some "Marker",
      documentation := "GetEFSFileSystems returns the EFS File Systems on the given input" } ]

/-- Users, groups, policies and keys. -/
def identity : List Descriptor :=
  [ { entity := "Users", service := "iam", callPrefix := "List", tokenField := some "Marker",
      documentation := "GetUsers returns all the IAM Users on the given input" },
    { entity := "Groups", service := "iam", callPrefix := "List", tokenField := some "Marker",
      documentation := "GetGroups returns all the IAM Groups on the given input" },
    { entity := "Roles", service := "iam", callPrefix := "List", tokenField := some "Marker",
      documentation := "GetRoles returns all the IAM Roles on the given input" },
    { entity := "Policies", service := "iam", callPrefix := "List", tokenField := some "Marker",
      documentation := "GetPolicies returns all the IAM Policies on the given input" },
    { entity := "InstanceProfiles", service := "iam", callPrefix := "List",
      tokenField := some "Marker",
      documentation := "GetInstanceProfiles returns all the IAM InstanceProfiles on the given " ++
        "input" },
    { entity := "AccessKeys", service := "iam", callPrefix := "List",
      elementType := some "iam.AccessKeyMetadata", attributePath := some "AccessKeyMetadata",
      tokenField := some "Marker",
      documentation := "GetAccessKeys returns all the IAM AccessKeys on the given input" },
    { entity := "AccountPasswordPolicy", service := "iam", callPrefix := "Get",
      elementType := some "iam.PasswordPolicy", attributePath := some "PasswordPolicy",
      unpaginated := true, singleResult := true,
      documentation := "GetAccountPasswordPolicy returns the IAM AccountPasswordPolicy on the " ++
        "given input" },
    { entity := "KMSKeys", service := "kms", callPrefix := "List",
      elementType := some "kms.KeyListEntry", attributePath := some "Keys",
      callName := some "Keys", tokenField := some "NextMarker", inputTokenField := some "Marker",
      documentation := "GetKMSKeys returns all the KMS Keys on the given input" },
    { entity := "KMSAliases", service := "kms", callPrefix := "List",
      elementType := some "kms.AliasListEntry", attributePath := some "Aliases",
      callName := some "Aliases", tokenField := some "NextMarker",
      inputTokenField := some "Marker",
      documentation := "GetKMSAliases returns all the KMS Aliases on the given input" } ]

/-- Databases, tables and caches. -/
def databases : List Descriptor :=
  [ { entity := "DBInstances", service := "rds", callPrefix := "Describe",
      tokenField := some "Marker",
      documentation := "GetDBInstances returns all DB instances based on the input given" },
    { entity := "DBClusters", service := "rds", callPrefix := "Describe",
      tokenField := some "Marker",
      documentation := "GetDBClusters returns all DB clusters based on the input given" },
    { entity := "DBParameterGroups", service := "rds", callPrefix := "Describe",
      tokenField := some "Marker",
      documentation := "GetDBParameterGroups returns all DB parameterGroups based on the input " ++
        "given" },
    { entity := "DBSubnetGroups", service := "rds", callPrefix := "Describe",
      tokenField := some "Marker",
      documentation := "GetDBSubnetGroups returns all DB DBSubnetGroups based on the input " ++
        "given" },
    { entity := "DynamodbGlobalTables", service := "dynamodb", callPrefix := "List",
      elementType := some "dynamodb.GlobalTable", attributePath := some "GlobalTables",
      callName := some "GlobalTables", tokenField := some "LastEvaluatedGlobalTableName",
      inputTokenField := some "ExclusiveStartGlobalTableName",
      documentation := "GetDynamodbGlobalTables returns all DynamoDB Global Tables based on " ++
        "the input given" },
    { entity := "DynamodbTables", service := "dynamodb", callPrefix := "List",
      elementType := some "string", attributePath := some "TableNames",
      callName := some "Tables", tokenField := some "LastEvaluatedTableName",
      inputTokenField := some "ExclusiveStartTableName",
      documentation := "GetDynamodbTables returns all DynamoDB Tables based on the input given" },
    { entity := "ElastiCacheClusters", service := "elasticache", callPrefix := "Describe",
      elementType := some "elasticache.CacheCluster", attributePath := some "CacheClusters",
      callName := some "CacheClusters", tokenField := some "Marker",
      documentation := "GetElastiCacheClusters returns all Elasticache Clusters based on the " ++
        "input given" },
    { entity := "ElastiCacheReplicationGroups", service := "elasticache",
      callPrefix := "Describe", elementType := some "elasticache.ReplicationGroup",
      attributePath := some "ReplicationGroups", callName := some "ReplicationGroups",
      tokenField := some "Marker",
      documentation := "GetElastiCacheReplicationGroups returns the Elasticache Replication " ++
        "Groups on the given input" } ]

/-- Functions, queues, alarms and mail. -/
def application : List Descriptor :=
  [ { entity := "LambdaFunctions", service := "lambda", callPrefix := "List",
      elementType := some "lambda.FunctionConfiguration", attributePath := some "Functions",
      callName := some "Functions", tokenField := some "NextMarker",
      inputTokenField := some "Marker",
      documentation := "GetLambdaFunctions returns the lambda functions on the given input" },
    { entity := "SQSQueues", service := "sqs", callPrefix := "List",
      elementType := some "string", attributePath := some "QueueUrls", callName := some "Queues",
      unpaginated := true,
      documentation := "GetSQSQueues returns the sqs queues on the given input" },
    { entity := "SQSQueueAttributes", service := "sqs", callPrefix := "Get",
      elementType := some "string", attributePath := some "Attributes",
      callName := some "QueueAttributes", unpaginated := true, mapResult := true,
      documentation := "GetSQSQueueAttributes returns the sqs queue attributes on the given " ++
        "input" },
    { entity := "CloudwatchMetricAlarms", service := "cloudwatch", callPrefix := "Describe",
      elementType := some "cloudwatch.MetricAlarm", attributePath := some "MetricAlarms",
      callName := some "Alarms",
      documentation := "GetCloudwatchMetricAlarms returns the cloudwatch metric alarms on the " ++
        "given input" },
    { entity := "SESDomainIdentities", service := "ses", callPrefix := "List",
      elementType := some "string", attributePath := some "Identities",
      callName := some "Identities",
      documentation := "GetSESDomainIdentities returns the SES domain identities on the given " ++
        "input" } ]

/-- All accessors of Amazon Web Services. -/
def aws : List Descriptor :=
  compute ++ loadBalancing ++ storageAndDelivery ++ identity ++ databases ++ application

end CloudAccessors.Catalog
